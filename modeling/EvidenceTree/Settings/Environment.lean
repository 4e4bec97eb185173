import EvidenceTree.Assoc
import EvidenceTree.Text.Read

/-!
# Environments

What the surroundings of a run provide: variables, and the home directory of the account, which
stands in for a variable that is not set.
-/

namespace EvidenceTree

open Text (word?)

/-- The surroundings of a run. -/
structure Environment where
  values : Assoc String := []
  accountHome : Option String := none

namespace Environment

/-- The value of a variable. -/
def value? (env : Environment) (name : String) : Option String := Assoc.find? name env.values

/-- The entry of a variable: its name, an equals sign and its value. -/
def entry (pair : String × String) : List Char := pair.1.toList ++ '=' :: pair.2.toList

/-- What follows a text and an equals sign in the entry that starts with them. For the name of a
variable that is its value; a text with equals signs within goes on into the value. -/
def lookup? (env : Environment) (text : List Char) : Option (List Char) :=
  env.values.findSome? fun pair => (word? (text ++ ['=']) (entry pair)).map (·.1)

/-- An entry starts with the name of a variable and an equals sign only if it is that variable's. -/
theorem word?_entry {name : List Char} {pair : String × String} (plain : '=' ∉ name)
    (named : '=' ∉ pair.1.toList) :
    (word? (name ++ ['=']) (entry pair)).map (·.1) =
      if pair.1.toList = name then some pair.2.toList else none := by
  unfold entry
  generalize pair.1.toList = own at named
  induction name generalizing own with
  | nil =>
    cases own with
    | nil => simp [word?, Text.Rest.all, Text.Rest.behind]
    | cons d own =>
      simp only [List.mem_cons, not_or] at named
      simp [word?, named.1]
  | cons c name ih =>
    simp only [List.mem_cons, not_or] at plain
    cases own with
    | nil => simp [word?, Ne.symm plain.1]
    | cons d own =>
      simp only [List.mem_cons, not_or] at named
      by_cases same : c = d
      · simp [word?, ← ih plain.2 own named.2, same, Text.Rest.behind, Function.comp_def]
      · simp [word?, same, Ne.symm same]

/-- What is looked up under the name of a variable is its value. -/
theorem lookup?_eq_value? {env : Environment} {name : List Char} (plain : '=' ∉ name)
    (named : ∀ pair ∈ env.values, '=' ∉ pair.1.toList) :
    env.lookup? name = (env.value? (String.ofList name)).map String.toList := by
  unfold lookup? value?
  generalize env.values = values at named
  induction values with
  | nil => rfl
  | cons pair others ih =>
    rw [List.forall_mem_cons] at named
    rw [List.findSome?_cons, word?_entry plain named.1, ih named.2, Assoc.find?]
    by_cases same : pair.1 = String.ofList name
    · simp [same]
    · have differ : pair.1.toList ≠ name := fun equal =>
        same (by rw [← equal, String.ofList_toList])
      simp [same, differ]

/-- The home directory: that of the variable, unless it is empty, or else that of the account. -/
def home? (env : Environment) : Option String :=
  match env.value? "HOME" with
  | none => env.accountHome
  | some home => if home.isEmpty then env.accountHome else some home

/-- A path below a directory. -/
def join (directory name : String) : String :=
  if directory.endsWith "/" then directory ++ name else directory ++ "/" ++ name

/-- The directory of configurations, if there is a home directory: that of the variable, if its
path is absolute, or else the one at home. -/
def configDirectory? (env : Environment) : Option String :=
  env.home?.map fun home =>
    match env.value? "XDG_CONFIG_HOME" with
    | some directory => if directory.startsWith "/" then directory else join home ".config"
    | none => join home ".config"

/-- The path of the settings for all runs, if there is a directory of configurations. -/
def settingsPath? (env : Environment) : Option String :=
  env.configDirectory?.map fun directory => join (join directory "proftree") "proftree.toml"

/-- Without a home directory there are no settings for all runs, whatever the variables name. -/
theorem settingsPath?_eq_none_iff {env : Environment} :
    env.settingsPath? = none ↔ env.home? = none := by
  unfold settingsPath? configDirectory?
  rw [Option.map_eq_none_iff, Option.map_eq_none_iff]

end Environment

end EvidenceTree
