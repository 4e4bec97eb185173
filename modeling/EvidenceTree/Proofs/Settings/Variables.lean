import EvidenceTree.Proofs.Document.Descriptors
import EvidenceTree.Settings.Variables
import Mathlib.Data.List.Induction

/-!
# What variables specify

Variables are put into one table, each in turn. What is put at the end of one path is found there,
and it is nowhere in the way of the other paths, as long as none of them starts with another. So
where only variables of the three settings are there, each setting is what the last variable of its
name says, and no table or list can stand where a text is expected.

* `Settings.Entry.find?_put`, `Settings.Entry.find?_put_of_apart`: one text that is put.
* `Settings.Entry.find?_ofVariables`: all texts that variables put.
* `Settings.Layer.ofVariables_eq`: what variables specify.
-/

namespace EvidenceTree

/-- A word stands at the front of a text exactly where something follows it. -/
theorem Text.isSome_word?_iff {word s : List Char} : (word? word s).isSome ↔ word <+: s := by
  induction word generalizing s with
  | nil => simp [word?]
  | cons c word ih =>
    cases s with
    | nil => simp [word?]
    | cons d s =>
      unfold word?
      rw [List.cons_prefix_cons]
      split
      · rename_i same
        rw [Option.isSome_map, ih]
        simp [same]
      · rename_i differ
        simp [differ]

namespace Settings

/-! ## One text -/

namespace Entry

variable {path other : List String}

/-- The path through the entries of these names. -/
def steps (path : List String) : List Step := path.map .entry

/-- What is known of the members of a table; nothing, where something else stands. -/
def known : Option Entry → Assoc Entry
  | some (table members) => members
  | _ => []

theorem put_steps_cons (value name : String) (path : List String) (current : Option Entry) :
    put value (steps (name :: path)) current = table
      (Assoc.insert name (put value (steps path) (Assoc.find? name (known current)))
        (known current)) := by
  cases current with
  | none => rfl
  | some entry => cases entry <;> rfl

theorem bind_find?_cons (name : String) (names : List String) (current : Option Entry) :
    current.bind (find? (name :: names)) =
      (Assoc.find? name (known current)).bind (find? names) := by
  cases current with
  | none => rfl
  | some entry => cases entry <;> rfl

/-- What is put at the end of a path is found there. -/
theorem find?_put (value : String) (path : List String) (current : Option Entry) :
    find? path (put value (steps path) current) = some (text value) := by
  induction path generalizing current with
  | nil => rfl
  | cons name path ih =>
    rw [put_steps_cons, find?, Assoc.find?_insert_self, Option.bind_some, ih]

/-- What is put at the end of a path is out of the way of another path, if neither starts with the
other. -/
theorem find?_put_of_apart (value : String) (apart : ¬ path <+: other) (apart' : ¬ other <+: path)
    (current : Option Entry) :
    find? other (put value (steps path) current) = current.bind (find? other) := by
  induction path generalizing other current with
  | nil => exact absurd List.nil_prefix apart
  | cons name path ih =>
    cases other with
    | nil => exact absurd List.nil_prefix apart'
    | cons name' other =>
      rw [bind_find?_cons, put_steps_cons, find?]
      by_cases same : name = name'
      · subst same
        simp only [List.cons_prefix_cons, true_and] at apart apart'
        rw [Assoc.find?_insert_self, Option.bind_some, ih apart apart']
      · rw [Assoc.find?_insert_of_ne _ _ same]

end Entry

end Settings

/-! ## The three settings -/

/-- What a variable may specify. -/
inductive Setting where
  | dataFile
  | caseSensitive
  | keyPolicy
  deriving DecidableEq

/-- The name, in lower case, of the variables that specify a setting. -/
def Setting.variableName : Setting → String
  | dataFile => "proftree_data_file"
  | caseSensitive => "proftree_matching__case_sensitive"
  | keyPolicy => "proftree_matching__key_policy"

/-- The path to a setting. -/
def Setting.path : Setting → List String
  | dataFile => ["data_file"]
  | caseSensitive => ["matching", "case_sensitive"]
  | keyPolicy => ["matching", "key_policy"]

/-- A variable is named for a setting. -/
def Setting.Named (setting : Setting) (written : String) : Prop :=
  Text.lower written = setting.variableName

instance (setting : Setting) (written : String) : Decidable (setting.Named written) :=
  inferInstanceAs (Decidable (_ = _))

/-- What the last variable for a setting says. -/
def Setting.said? (setting : Setting) (values : Assoc String) : Option String :=
  (values.reverse.find? fun pair => setting.Named pair.1).map Prod.snd

/-- All variables with the prefix of settings are named for settings. -/
def Setting.NameAll (values : Assoc String) : Prop :=
  ∀ pair ∈ values, "proftree_".toList <+: (Text.lower pair.1).toList →
    ∃ setting : Setting, setting.Named pair.1

namespace Setting

variable {values : Assoc String} {pair : String × String} {written : String}
  {setting setting' : Setting}

theorem path_apart (differ : setting ≠ setting') : ¬ setting.path <+: setting'.path := by
  revert differ
  cases setting <;> cases setting' <;> decide

theorem Named.unique (named : setting.Named written) (named' : setting'.Named written) :
    setting = setting' := by
  have same : setting.variableName = setting'.variableName := named.symm.trans named'
  revert same
  cases setting <;> cases setting' <;> decide

theorem Named.starts (named : setting.Named written) :
    "proftree_".toList <+: (Text.lower written).toList := by
  rw [show Text.lower written = setting.variableName from named]
  cases setting <;> decide

theorem said?_concat (setting : Setting) (values : Assoc String) (pair : String × String) :
    setting.said? (values ++ [pair]) =
      if setting.Named pair.1 then some pair.2 else setting.said? values := by
  unfold said?
  rw [List.reverse_append, List.reverse_singleton, List.singleton_append, List.find?_cons]
  split <;> rename_i named
  · rw [if_pos (of_decide_eq_true named)]
    rfl
  · rw [if_neg (of_decide_eq_false named)]

end Setting

namespace Settings

variable {values : Assoc String} {written : String} {setting : Setting}

/-- A variable that is named for a setting puts its value at the end of the path to it. -/
theorem exists_settingName? (named : setting.Named written) :
    ∃ name, settingName? written = some name ∧ pathOf name = Entry.steps setting.path := by
  unfold settingName?
  rw [show Text.lower written = setting.variableName from named]
  cases setting <;> exact ⟨_, rfl, rfl⟩

theorem settingName?_eq_none (plain : ¬ "proftree_".toList <+: (Text.lower written).toList) :
    settingName? written = none := by
  unfold settingName? namePrefix
  rw [← Text.isSome_word?_iff, Option.not_isSome_iff_eq_none] at plain
  rw [plain]
  rfl

theorem Entry.ofVariables_concat (values : Assoc String) (pair : String × String) :
    ofVariables (values ++ [pair]) =
      match settingName? pair.1 with
      | some name => put pair.2 (pathOf name) (some (ofVariables values))
      | none => ofVariables values :=
  List.foldl_append

/-- What is found of a setting is what the last variable for it says. -/
theorem Entry.find?_ofVariables (named : Setting.NameAll values) (setting : Setting) :
    find? setting.path (ofVariables values) = (setting.said? values).map .text := by
  induction values using List.reverseRecOn with
  | nil => cases setting <;> rfl
  | append_singleton values pair ih =>
    obtain ⟨namedBefore, namedLast⟩ := List.forall_mem_append.1 named
    rw [ofVariables_concat, Setting.said?_concat]
    by_cases starts : "proftree_".toList <+: (Text.lower pair.1).toList
    · obtain ⟨other, isOther⟩ := namedLast pair List.mem_cons_self starts
      obtain ⟨name, isName, isPath⟩ := exists_settingName? isOther
      rw [isName]
      dsimp only
      rw [isPath]
      by_cases same : setting = other
      · subst same
        rw [if_pos isOther, find?_put]
        rfl
      · rw [if_neg fun isSetting => same (isSetting.unique isOther),
          find?_put_of_apart pair.2 (Setting.path_apart (Ne.symm same)) (Setting.path_apart same),
          Option.bind_some, ih namedBefore]
    · rw [settingName?_eq_none starts, if_neg fun isSetting => starts isSetting.starts,
        ih namedBefore]

/-! ## What the words mean -/

/-- The words for truth and those for falsehood. -/
def truthWords : Bool → List String
  | true => ["1", "true", "on", "yes"]
  | false => ["0", "false", "off", "no"]

theorem truth?_eq_some_iff {word : String} {b : Bool} :
    truth? word = some b ↔ word ∈ truthWords b := by
  constructor
  · intro found
    unfold truth? at found
    split at found
    case h_9 => cases found
    all_goals
      cases found
      decide
  · intro isWord
    cases b <;> simp only [truthWords, List.mem_cons, List.not_mem_nil, or_false] at isWord <;>
      rcases isWord with rfl | rfl | rfl | rfl <;> rfl

/-- A text is a word for a truth value, in letters of any case. -/
def MeansTruth (said : String) (b : Bool) : Prop := Text.lower said ∈ truthWords b

/-- A text is the name of a key policy, in letters of any case and with blank characters around
it. -/
def MeansPolicy (said : String) (policy : KeyPolicy) : Prop :=
  Text.lower (Text.trim said) = policy.name

theorem Entry.bool_text_eq_ok_iff {said : String} {b : Bool} :
    Entry.bool (.text said) = .ok b ↔ MeansTruth said b := by
  unfold Entry.bool MeansTruth
  dsimp only
  rw [← truth?_eq_some_iff]
  cases truth? (Text.lower said) with
  | none => exact ⟨nofun, nofun⟩
  | some known => simp

theorem Entry.bool_text_eq_error_iff {said : String} {fault : SettingsFault} :
    Entry.bool (.text said) = .error fault ↔
      (¬ ∃ b, MeansTruth said b) ∧ fault = .noBoolean (Text.lower said) := by
  unfold Entry.bool MeansTruth
  dsimp only
  simp only [← truth?_eq_some_iff]
  cases truth? (Text.lower said) with
  | none => simp [eq_comm]
  | some known => simp

theorem ofName?_eq_some_iff {name : String} {policy : KeyPolicy} :
    KeyPolicy.ofName? name = some policy ↔ name = policy.name := by
  constructor
  · intro found
    unfold KeyPolicy.ofName? at found
    split at found <;> cases found <;> rfl
  · rintro rfl
    exact policy.ofName?_name

theorem policyOfText_eq_ok_iff {said : String} {policy : KeyPolicy} :
    policyOfText said = .ok policy ↔ MeansPolicy said policy := by
  unfold policyOfText MeansPolicy
  dsimp only
  rw [← ofName?_eq_some_iff]
  cases KeyPolicy.ofName? (Text.lower (Text.trim said)) with
  | none => exact ⟨nofun, nofun⟩
  | some known => simp

theorem policyOfText_eq_error_iff {said : String} {fault : SettingsFault} :
    policyOfText said = .error fault ↔
      (¬ ∃ policy, MeansPolicy said policy) ∧
        fault = .noKeyPolicy (Text.lower (Text.trim said)) := by
  unfold policyOfText MeansPolicy
  dsimp only
  simp only [← ofName?_eq_some_iff]
  cases KeyPolicy.ofName? (Text.lower (Text.trim said)) with
  | none => simp [eq_comm]
  | some known => simp

/-! ## The layer of all variables -/

theorem optionMapM_eq_ok_iff {ε α β : Type} {f : α → Except ε β} {means : α → β → Prop}
    (reads : ∀ {a b}, f a = .ok b ↔ means a b) {said : Option α} {found : Option β} :
    said.mapM f = .ok found ↔ Option.Rel means said found := by
  constructor
  · intro run
    cases said with
    | none =>
      cases run
      exact .none
    | some a =>
      obtain ⟨b, read, rfl⟩ := map_eq_ok_iff.1 run
      exact .some (reads.1 read)
  · intro each
    cases each with
    | none => rfl
    | some isMeant => exact map_eq_ok_iff.2 ⟨_, reads.2 isMeant, rfl⟩

theorem optionMapM_eq_error_iff {ε α β : Type} {f : α → Except ε β} {said : Option α} {fault : ε} :
    said.mapM f = .error fault ↔ ∃ a, said = some a ∧ f a = .error fault := by
  cases said with
  | none => exact ⟨nofun, nofun⟩
  | some a =>
    simp only [Option.some.injEq, exists_eq_left']
    exact map_eq_error_iff

theorem exists_rel_iff {α β : Type} {means : α → β → Prop} {said : Option α} :
    (∃ found, Option.Rel means said found) ↔ ∀ a, said = some a → ∃ b, means a b := by
  cases said with
  | none => exact ⟨nofun, fun _ => ⟨none, .none⟩⟩
  | some a =>
    constructor
    · rintro ⟨_, ⟨isMeant⟩⟩ _ ⟨⟩
      exact ⟨_, isMeant⟩
    · intro each
      obtain ⟨b, isMeant⟩ := each a rfl
      exact ⟨some b, .some isMeant⟩

theorem Entry.bind_text?_map_text (said : Option String) :
    (said.map text).bind text? = said := by
  cases said <;> rfl

theorem Entry.mapM_bool_map_text (said : Option String) :
    (said.map text).mapM bool = said.mapM fun s => bool (text s) := by
  cases said <;> rfl

/-- A layer holds what variables say, each setting by the last variable for it. -/
structure Layer.IsSaid (values : Assoc String) (layer : Layer) : Prop where
  dataFile : layer.dataFile = Setting.dataFile.said? values
  caseSensitive : Option.Rel MeansTruth (Setting.caseSensitive.said? values) layer.caseSensitive
  keyPolicy : Option.Rel MeansPolicy (Setting.keyPolicy.said? values) layer.keyPolicy

/-- What is wrong with what variables say: a word that means nothing. The case mode is looked at
first. -/
inductive Layer.Missaid (values : Assoc String) : SettingsFault → Prop
  | caseSensitive {said : String} : Setting.caseSensitive.said? values = some said →
      (¬ ∃ b, MeansTruth said b) → Missaid values (.noBoolean (Text.lower said))
  | keyPolicy {said : String} {truth : Option Bool} :
      Option.Rel MeansTruth (Setting.caseSensitive.said? values) truth →
      Setting.keyPolicy.said? values = some said → (¬ ∃ policy, MeansPolicy said policy) →
      Missaid values (.noKeyPolicy (Text.lower (Text.trim said)))

theorem Layer.ofVariables_eq (named : Setting.NameAll values) :
    Layer.ofVariables values =
      ((Setting.caseSensitive.said? values).mapM fun said => Entry.bool (.text said)) >>=
        fun caseSensitive => (Setting.keyPolicy.said? values).mapM policyOfText >>=
          fun keyPolicy =>
            .ok { dataFile := Setting.dataFile.said? values, caseSensitive, keyPolicy } := by
  have dataFile := Entry.find?_ofVariables named .dataFile
  have caseSensitive := Entry.find?_ofVariables named .caseSensitive
  have keyPolicy := Entry.find?_ofVariables named .keyPolicy
  unfold Layer.ofVariables
  dsimp only [Setting.path] at dataFile caseSensitive keyPolicy ⊢
  rw [dataFile, caseSensitive, keyPolicy, Entry.bind_text?_map_text, Entry.bind_text?_map_text,
    Entry.mapM_bool_map_text]
  rfl

/-- Variables specify the layer that they say. -/
theorem Layer.ofVariables_eq_ok_iff (named : Setting.NameAll values) {layer : Layer} :
    Layer.ofVariables values = .ok layer ↔ layer.IsSaid values := by
  rw [ofVariables_eq named, bind_eq_ok_iff]
  constructor
  · intro run
    obtain ⟨truth, isTruth, run⟩ := run
    obtain ⟨policy, isPolicy, ⟨⟩⟩ := bind_eq_ok_iff.1 run
    exact ⟨rfl, (optionMapM_eq_ok_iff Entry.bool_text_eq_ok_iff).1 isTruth,
      (optionMapM_eq_ok_iff policyOfText_eq_ok_iff).1 isPolicy⟩
  · intro isSaid
    refine ⟨_, (optionMapM_eq_ok_iff Entry.bool_text_eq_ok_iff).2 isSaid.caseSensitive,
      bind_eq_ok_iff.2 ⟨_, (optionMapM_eq_ok_iff policyOfText_eq_ok_iff).2 isSaid.keyPolicy, ?_⟩⟩
    rw [← isSaid.dataFile]

/-- Variables are refused for what is wrong with what they say. -/
theorem Layer.ofVariables_eq_error_iff (named : Setting.NameAll values) {fault : SettingsFault} :
    Layer.ofVariables values = .error fault ↔ Missaid values fault := by
  rw [ofVariables_eq named, bind_eq_error_iff]
  constructor
  · intro run
    rcases run with refused | ⟨truth, isTruth, run⟩
    · obtain ⟨said, isSaid, refused⟩ := optionMapM_eq_error_iff.1 refused
      obtain ⟨unknown, rfl⟩ := Entry.bool_text_eq_error_iff.1 refused
      exact .caseSensitive isSaid unknown
    · rcases bind_eq_error_iff.1 run with refused | ⟨_, _, ⟨⟩⟩
      obtain ⟨said, isSaid, refused⟩ := optionMapM_eq_error_iff.1 refused
      obtain ⟨unknown, rfl⟩ := policyOfText_eq_error_iff.1 refused
      exact .keyPolicy ((optionMapM_eq_ok_iff Entry.bool_text_eq_ok_iff).1 isTruth) isSaid unknown
  · intro missaid
    cases missaid with
    | caseSensitive isSaid unknown =>
      exact .inl (optionMapM_eq_error_iff.2
        ⟨_, isSaid, Entry.bool_text_eq_error_iff.2 ⟨unknown, rfl⟩⟩)
    | keyPolicy truths isSaid unknown =>
      exact .inr ⟨_, (optionMapM_eq_ok_iff Entry.bool_text_eq_ok_iff).2 truths,
        bind_eq_error_iff.2 (.inl (optionMapM_eq_error_iff.2
          ⟨_, isSaid, policyOfText_eq_error_iff.2 ⟨unknown, rfl⟩⟩))⟩

end Settings

end EvidenceTree
