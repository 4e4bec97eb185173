import EvidenceTree.Settings.Expansion

/-!
# What a path is expanded to

A path is read once, whatever the surroundings of the run: as plain characters and as variables,
some of which have a default. Each part then has a value or none. A value is never read again, so
what it holds of dollars is kept, and a single part without a value keeps the whole path as it is.

* `Expansion.parts`: what a path is read as; `Expansion.Part.value?`: what a part stands for.
* `Expansion.substituted?_eq`: the text with the values of its variables, part by part.
* `Expansion.expand_of_unset`, `Expansion.expand_of_set`: the two outcomes.
* `Expansion.expand_home`, `Expansion.expand_home_default`: paths below the home directory, among
  them those that end with a variable and its default.
-/

namespace EvidenceTree.Expansion

variable {env : Environment} {s inner after : List Char} {text : String}

/-! ## Parts -/

/-- What stands in a path: a character for itself, or a variable. -/
inductive Part where
  | plain (c : Char)
  | named (name : List Char) (default : Option (List Char))
  deriving DecidableEq

/-- What a part stands for, if there is such a thing. -/
def Part.value? (env : Environment) : Part → Option (List Char)
  | plain c => some [c]
  | named name default => (env.lookup? name).or default

theorem value?_named (env : Environment) (name : List Char) (default : Option (List Char)) :
    (Part.named name default).value? env = (env.lookup? name).or default :=
  rfl

/-- The variable that stands between braces. A default counts only behind a name. -/
def bracedPart (inner : List Char) : Part :=
  match splitDefault inner with
  | (c :: name, some default) => .named (c :: name) (some default)
  | _ => .named inner none

theorem value?_bracedPart (env : Environment) (inner : List Char) :
    (bracedPart inner).value? env = bracedValue? env inner := by
  unfold bracedPart bracedValue?
  generalize splitDefault inner = pieces
  rcases pieces with ⟨_ | ⟨c, name⟩, _ | default⟩
  · exact Option.or_none
  · exact Option.or_none
  · exact Option.or_none
  · exact Option.or_some

/-- The parts of a path. -/
def parts (s : List Char) : List Part :=
  match s with
  | [] => []
  | '$' :: '\x7b' :: rest =>
    match found : braced? rest with
    | some (inner, after) =>
      have : after.length < rest.length := length_braced? found
      bracedPart inner :: parts after
    | none => .plain '$' :: .plain '\x7b' :: parts rest
  | '$' :: '$' :: rest => .plain '$' :: parts rest
  | '$' :: c :: rest =>
    if isNameChar c then
      have : (rest.dropWhile isNameChar).length ≤ rest.length :=
        (List.dropWhile_suffix isNameChar (l := rest)).length_le
      .named (c :: rest.takeWhile isNameChar) none :: parts (rest.dropWhile isNameChar)
    else .plain '$' :: parts (c :: rest)
  | c :: rest => .plain c :: parts rest
termination_by s.length

theorem parts_braced (found : braced? s = some (inner, after)) :
    parts ('$' :: '\x7b' :: s) = bracedPart inner :: parts after := by
  rw [parts]
  split <;> rename_i found' <;> cases found.symm.trans found'
  rfl

theorem parts_unclosed (unclosed : braced? s = none) :
    parts ('$' :: '\x7b' :: s) = .plain '$' :: .plain '\x7b' :: parts s := by
  rw [parts]
  split <;> rename_i found <;> cases unclosed.symm.trans found
  rfl

theorem parts_cons {c : Char} (noDollar : c ≠ '$') : parts (c :: s) = .plain c :: parts s :=
  parts.eq_5 c s (fun _ isDollar _ => noDollar isDollar) (fun _ isDollar _ => noDollar isDollar)
    fun _ _ isDollar _ => noDollar isDollar

/-! ### A variable with a default -/

/-- What stands between braces ends at the first closing one. -/
theorem braced?_append (closed : '\x7d' ∉ inner) :
    braced? (inner ++ '\x7d' :: after) = some (inner, after) := by
  induction inner with
  | nil => rfl
  | cons c inner ih =>
    rw [List.mem_cons, not_or] at closed
    rw [List.cons_append, braced?, if_neg (Ne.symm closed.1), ih closed.2]
    rfl

/-- A name ends in front of the first mark of a default. -/
theorem splitDefault_append {name default : List Char} (unmarked : ':' ∉ name) :
    splitDefault (name ++ ':' :: '-' :: default) = (name, some default) := by
  induction name with
  | nil => rfl
  | cons c name ih =>
    rw [List.mem_cons, not_or] at unmarked
    rw [List.cons_append, splitDefault, ih unmarked.2]
    exact fun _ isMark => absurd isMark.symm unmarked.1

theorem parts_default {name default : List Char} (named : name ≠ []) (unmarked : ':' ∉ name)
    (closed : '\x7d' ∉ name ++ ':' :: '-' :: default) :
    parts ('$' :: '\x7b' :: (name ++ ':' :: '-' :: default ++ '\x7d' :: after)) =
      .named name (some default) :: parts after := by
  obtain ⟨c, name, rfl⟩ := List.exists_cons_of_ne_nil named
  rw [parts_braced (braced?_append closed)]
  unfold bracedPart
  rw [splitDefault_append unmarked]

theorem substituted?_braced (found : braced? s = some (inner, after)) :
    substituted? env ('$' :: '\x7b' :: s) =
      (bracedValue? env inner).bind fun value => (substituted? env after).map (value ++ ·) := by
  rw [substituted?]
  split <;> rename_i found' <;> cases found.symm.trans found'
  rfl

theorem substituted?_unclosed (unclosed : braced? s = none) :
    substituted? env ('$' :: '\x7b' :: s) =
      (substituted? env s).map ('$' :: '\x7b' :: ·) := by
  rw [substituted?]
  split <;> rename_i found <;> cases unclosed.symm.trans found
  rfl

/-! ## Values -/

/-- The values of parts, one after the other; none if a part has none. -/
def joined? (env : Environment) (parts : List Part) : Option (List Char) :=
  (parts.mapM (Part.value? env)).map List.flatten

theorem joined?_cons (part : Part) (parts : List Part) :
    joined? env (part :: parts) =
      (part.value? env).bind fun value => (joined? env parts).map (value ++ ·) := by
  unfold joined?
  rw [List.mapM_cons]
  cases part.value? env with
  | none => rfl
  | some value =>
    cases parts.mapM (Part.value? env) with
    | none => rfl
    | some values => rfl

theorem joined?_plain (c : Char) (parts : List Part) :
    joined? env (.plain c :: parts) = (joined? env parts).map (c :: ·) :=
  joined?_cons (.plain c) parts

/-- The text with the values of its variables is the values of its parts. -/
theorem substituted?_eq (env : Environment) (s : List Char) :
    substituted? env s = joined? env (parts s) := by
  induction s using substituted?.induct with
  | case1 =>
    rw [substituted?, parts]
    rfl
  | case2 rest inner after found shorter ih =>
    rw [substituted?_braced found, parts_braced found, joined?_cons, value?_bracedPart, ih]
  | case3 rest unclosed ih =>
    rw [substituted?_unclosed unclosed, parts_unclosed unclosed, joined?_plain, joined?_plain, ← ih,
      Option.map_map]
    rfl
  | case4 rest ih =>
    rw [substituted?, parts, joined?_plain, ih]
  | case5 c rest noBrace noDollar isName shorter ih =>
    rw [substituted?.eq_4 env c rest noBrace noDollar, parts.eq_4 c rest noBrace noDollar,
      if_pos isName, if_pos isName, joined?_cons, ← ih, value?_named, Option.or_none]
  | case6 c rest noBrace noDollar noName ih =>
    rw [substituted?.eq_4 env c rest noBrace noDollar, parts.eq_4 c rest noBrace noDollar,
      if_neg noName, if_neg noName, joined?_plain, ih]
  | case7 c rest noVariable noDollars noSign ih =>
    rw [substituted?.eq_5 env c rest noVariable noDollars noSign,
      parts.eq_5 c rest noVariable noDollars noSign, joined?_plain, ih]

theorem joined?_eq_none {parts : List Part} {part : Part} (isPart : part ∈ parts)
    (unset : part.value? env = none) : joined? env parts = none := by
  induction parts with
  | nil => simp at isPart
  | cons first rest ih =>
    rw [joined?_cons]
    rcases List.mem_cons.1 isPart with rfl | inRest
    · rw [unset]
      rfl
    · rw [ih inRest]
      cases first.value? env <;> rfl

/-! ## Paths -/

/-- A variable that is not set and has no default leaves the path as it is. -/
theorem expand_of_unset {name : List Char} (isPart : .named name none ∈ parts text.toList)
    (unset : env.lookup? name = none) : expand env text = text := by
  have noValue : (Part.named name none).value? env = none := by
    rw [value?_named, unset, Option.or_none]
  have kept : substituted? env text.toList = none := by
    rw [substituted?_eq, joined?_eq_none isPart noValue]
  unfold expand
  rw [kept]

theorem tilde_eq_self (noTilde : s.head? ≠ some '~') : tilde env s = s := by
  unfold tilde
  split
  · exact absurd rfl noTilde
  · exact absurd rfl noTilde
  · rfl

/-- Where every part has a value, the path is these values, with the home directory in place of a
tilde that stands in the path itself. -/
theorem expand_of_set {values : List (List Char)}
    (set : (parts text.toList).mapM (Part.value? env) = some values) :
    expand env text = String.ofList
      (if text.toList.head? = some '~' then tilde env values.flatten else values.flatten) := by
  have replaced : substituted? env text.toList = some values.flatten := by
    rw [substituted?_eq, joined?, set]
    rfl
  unfold expand
  rw [replaced]
  dsimp only
  by_cases ownTilde : text.toList.head? = some '~'
  · rw [if_neg fun both => both.2 ownTilde, if_pos ownTilde]
  · rw [if_neg ownTilde]
    by_cases tildeInFront : values.flatten.head? = some '~'
    · rw [if_pos ⟨tildeInFront, ownTilde⟩]
    · rw [if_neg fun both => tildeInFront both.1, tilde_eq_self tildeInFront]

/-! ### Below the home directory -/

/-- A path that starts with a tilde and a slash leads to where the home directory does. -/
theorem expand_home {home : String} {values : List (List Char)} (isHome : env.home? = some home)
    (set : (parts s).mapM (Part.value? env) = some values) :
    expand env (String.ofList ('~' :: '/' :: s)) =
      home ++ "/" ++ String.ofList values.flatten := by
  have whole : (parts (String.ofList ('~' :: '/' :: s)).toList).mapM (Part.value? env) =
      some (['~'] :: ['/'] :: values) := by
    rw [String.toList_ofList, parts_cons (by decide), parts_cons (by decide), List.mapM_cons,
      List.mapM_cons, set]
    rfl
  rw [expand_of_set whole, String.toList_ofList, if_pos List.head?_cons]
  apply String.toList_inj.1
  simp [tilde, isHome]

/-- A path below the home directory that ends with a variable and its default: the value of the
variable stands there if it is set, or else the default. -/
theorem expand_home_default {home name default : String} (isHome : env.home? = some home)
    (named : name ≠ "") (plain : ∀ c ∈ [':', '=', '\x7d'], c ∉ name.toList)
    (closed : '\x7d' ∉ default.toList) (names : ∀ pair ∈ env.values, '=' ∉ pair.1.toList) :
    expand env ("~/$\x7b" ++ name ++ ":-" ++ default ++ "\x7d") =
      home ++ "/" ++ (env.value? name).getD default := by
  have unmarked : ':' ∉ name.toList := plain ':' (by simp)
  have noBrace : '\x7d' ∉ name.toList ++ ':' :: '-' :: default.toList := by
    simpa [closed] using plain '\x7d' (by simp)
  have text : "~/$\x7b" ++ name ++ ":-" ++ default ++ "\x7d" =
      String.ofList ('~' :: '/' :: '$' :: '\x7b' ::
        (name.toList ++ ':' :: '-' :: default.toList ++ '\x7d' :: [])) := by
    apply String.toList_inj.1
    simp
  have found : env.lookup? name.toList = (env.value? name).map String.toList := by
    rw [Environment.lookup?_eq_value? (plain '=' (by simp)) names, String.ofList_toList]
  have set : (parts ('$' :: '\x7b' ::
        (name.toList ++ ':' :: '-' :: default.toList ++ '\x7d' :: []))).mapM (Part.value? env) =
      some [((env.value? name).getD default).toList] := by
    rw [parts_default (mt String.toList_eq_nil_iff.1 named) unmarked noBrace, parts,
      List.mapM_cons, value?_named, found]
    cases env.value? name <;> rfl
  rw [text, expand_home isHome set, List.flatten_singleton, String.ofList_toList]

end EvidenceTree.Expansion
