import EvidenceTree.Evidence.Basic

/-!
# Evidence in pairs

Evidence given as texts of the form `key=value`. The key ends at the first equals sign and may have
blank characters around it; the value is everything behind that sign, as it is.
-/

namespace EvidenceTree.Evidence

/-- What is wrong with a pair. -/
inductive PairFault where
  | noSeparator (pair : String)
  | blankKey (pair : String)
  deriving DecidableEq

/-- The words for a faulty pair. -/
def PairFault.message : PairFault → String
  | noSeparator pair => "expected key=value, got '" ++ pair ++ "'"
  | blankKey pair => "empty evidence key in '" ++ pair ++ "'"

/-- What stands before and behind the first equals sign. -/
def splitPair? : List Char → Option (List Char × List Char)
  | [] => none
  | c :: rest =>
    if c = '=' then some ([], rest)
    else (splitPair? rest).map fun parts => (c :: parts.1, parts.2)

/-- The key and the value of a pair. -/
def readPair (pair : String) : Except PairFault (String × String) :=
  match splitPair? pair.toList with
  | none => .error (.noSeparator pair)
  | some (key, value) =>
    if Text.trimChars key = [] then .error (.blankKey pair)
    else .ok (String.ofList (Text.trimChars key), String.ofList value)

/-- Adds pairs to what is known. The first faulty pair is reported. -/
def readPairsOnto (known : Assoc Value) : List String → Except PairFault (Assoc Value)
  | [] => .ok known
  | pair :: rest => do
    let (key, value) ← readPair pair
    readPairsOnto (known.insert key (.text value)) rest

/-- The evidence that pairs give; the last pair with a key counts. -/
def readPairs (pairs : List String) : Except PairFault (Assoc Value) := readPairsOnto [] pairs

end EvidenceTree.Evidence
