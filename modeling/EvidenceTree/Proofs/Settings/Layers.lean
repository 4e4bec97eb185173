import EvidenceTree.Proofs.Settings.Expansion
import EvidenceTree.Proofs.Settings.Variables
import EvidenceTree.Settings.Load

/-!
# Settings from layers

A run has up to three layers of settings over the defaults: the file for all runs, the file that is
named for it, and the variables. Each setting is taken on its own from the strongest layer that
specifies it. A layer that cannot be read is never passed over, however little would be taken from
it.

* `Settings.IsConfigDirectory`: where the file for all runs lies;
  `Settings.load_congr_of_homeless`: without a home directory there is none.
* `Settings.Layer.IsGeneral`, `Settings.Layer.IsNamed`, `Settings.Layer.IsSaid`: the three layers;
  `Settings.AreLayers`: all of them.
* `Settings.DecidedBy`: what layers make of the settings.
* `Settings.load_eq_ok_iff`, `Settings.exists_load_eq_error_iff`: when settings are loaded, and when
  not; `Settings.load_eq_error_iff`: which fault is reported then.
-/

namespace EvidenceTree.Settings

variable {fs : FileSystem} {env : Environment} {path : Option String} {file : String}
  {layer : Layer} {settings : Settings}

/-! ## Files -/

/-- A file specifies a layer: it can be read, it is a text, and the text is a document of
settings. -/
def Layer.Specified (fs : FileSystem) (file : String) (layer : Layer) : Prop :=
  ∃ bytes text, fs.read file = .ok bytes ∧ Text.Symbol.text? bytes = some text ∧
    Layer.ofText? text = some layer

theorem Layer.ofFile_eq_ok_iff : Layer.ofFile fs file = .ok layer ↔ layer.Specified fs file := by
  unfold Layer.ofFile Layer.Specified
  rw [bind_eq_ok_iff]
  constructor
  · intro run
    obtain ⟨bytes, isRead, run⟩ := run
    split at run
    · cases run
    · rename_i text isText
      split at run
      · cases run
      · rename_i isDocument
        cases run
        exact ⟨bytes, text, mapError_eq_ok_iff.1 isRead, isText, isDocument⟩
  · intro specified
    obtain ⟨bytes, text, isRead, isText, isDocument⟩ := specified
    refine ⟨bytes, mapError_eq_ok_iff.2 isRead, ?_⟩
    rw [isText]
    dsimp only
    rw [isDocument]

/-- Why a file specifies no layer. -/
inductive Layer.Refused (fs : FileSystem) (file : String) : SettingsFault → Prop
  | unread {fault : FileFault} : fs.read file = .error fault →
      Refused fs file (.unread file fault)
  | notText {bytes : ByteArray} : fs.read file = .ok bytes → Text.Symbol.text? bytes = none →
      Refused fs file (.notText file)
  | notToml {bytes : ByteArray} {text : String} : fs.read file = .ok bytes →
      Text.Symbol.text? bytes = some text → Layer.ofText? text = none →
      Refused fs file (.notToml file)

theorem Layer.ofFile_eq_error_iff {fault : SettingsFault} :
    Layer.ofFile fs file = .error fault ↔ Refused fs file fault := by
  unfold Layer.ofFile
  rw [bind_eq_error_iff]
  constructor
  · intro run
    rcases run with unread | ⟨bytes, isRead, run⟩
    · obtain ⟨cause, noRead, rfl⟩ := mapError_eq_error_iff.1 unread
      exact .unread noRead
    · have isRead := mapError_eq_ok_iff.1 isRead
      split at run
      · rename_i noText
        cases run
        exact .notText isRead noText
      · rename_i text isText
        split at run
        · rename_i noDocument
          cases run
          exact .notToml isRead isText noDocument
        · cases run
  · intro refused
    cases refused with
    | unread unread => exact .inl (mapError_eq_error_iff.2 ⟨_, unread, rfl⟩)
    | notText isRead noText =>
      refine .inr ⟨_, mapError_eq_ok_iff.2 isRead, ?_⟩
      rw [noText]
    | notToml isRead isText noDocument =>
      refine .inr ⟨_, mapError_eq_ok_iff.2 isRead, ?_⟩
      rw [isText]
      dsimp only
      rw [noDocument]

/-- The directory of configurations: the one that a variable names, if its path is absolute, or else
the one below the home directory. Either way there has to be a home directory. -/
inductive IsConfigDirectory (env : Environment) : String → Prop
  | named {home directory : String} : env.home? = some home →
      env.value? "XDG_CONFIG_HOME" = some directory → directory.startsWith "/" = true →
      IsConfigDirectory env directory
  | atHome {home : String} : env.home? = some home →
      (∀ directory, env.value? "XDG_CONFIG_HOME" = some directory →
        directory.startsWith "/" = false) →
      IsConfigDirectory env (Environment.join home ".config")

theorem configDirectory?_eq_some_iff {directory : String} :
    env.configDirectory? = some directory ↔ IsConfigDirectory env directory := by
  unfold Environment.configDirectory?
  rw [Option.map_eq_some_iff]
  constructor
  · rintro ⟨home, isHome, rfl⟩
    split
    · rename_i directory found
      split
      · rename_i isAbsolute
        exact .named isHome found isAbsolute
      · rename_i isRelative
        refine .atHome isHome fun other found' => ?_
        cases found.symm.trans found'
        exact Bool.eq_false_iff.2 isRelative
    · rename_i unset
      refine .atHome isHome fun other found => ?_
      cases unset.symm.trans found
  · intro isDirectory
    cases isDirectory with
    | named isHome found isAbsolute =>
      refine ⟨_, isHome, ?_⟩
      rw [found]
      exact if_pos isAbsolute
    | atHome isHome relative =>
      refine ⟨_, isHome, ?_⟩
      split
      · rename_i directory found
        exact if_neg (Bool.eq_false_iff.1 (relative directory found))
      · rfl

/-- The file for all runs lies in the directory of configurations. -/
theorem settingsPath?_eq_some_iff :
    env.settingsPath? = some file ↔ ∃ directory, IsConfigDirectory env directory ∧
      file = Environment.join (Environment.join directory "proftree") "proftree.toml" := by
  unfold Environment.settingsPath?
  rw [Option.map_eq_some_iff]
  simp only [configDirectory?_eq_some_iff, eq_comm (a := file)]

/-- The layer of the file for all runs: what it specifies if it is there, else nothing. -/
inductive Layer.IsGeneral (fs : FileSystem) (env : Environment) : Layer → Prop
  | file {file : String} {layer : Layer} : env.settingsPath? = some file →
      fs.present file = true → layer.Specified fs file → IsGeneral fs env layer
  | absent : (∀ file, env.settingsPath? = some file → fs.present file = false) →
      IsGeneral fs env {}

/-- The layer of the file that is named for a run: what it specifies; nothing, if none is named. -/
inductive Layer.IsNamed (fs : FileSystem) : Option String → Layer → Prop
  | file {file : String} {layer : Layer} : layer.Specified fs file → IsNamed fs (some file) layer
  | absent : IsNamed fs none {}

theorem Layer.global_eq_ok_iff :
    Layer.global fs env = .ok layer ↔ layer.IsGeneral fs env := by
  unfold Layer.global
  constructor
  · intro run
    split at run
    · rename_i file isPath
      split at run
      · rename_i isPresent
        exact .file isPath isPresent (ofFile_eq_ok_iff.1 run)
      · rename_i isAbsent
        cases run
        refine .absent fun other isOther => ?_
        cases isPath.symm.trans isOther
        exact Bool.eq_false_iff.2 isAbsent
    · rename_i noPath
      cases run
      refine .absent fun other isOther => ?_
      cases noPath.symm.trans isOther
  · intro isGeneral
    cases isGeneral with
    | file isPath isPresent specified =>
      rw [isPath]
      dsimp only
      rw [if_pos isPresent]
      exact ofFile_eq_ok_iff.2 specified
    | absent absent =>
      split
      · rename_i file isPath
        rw [if_neg (Bool.eq_false_iff.1 (absent file isPath))]
      · rfl

theorem Layer.named_eq_ok_iff : Layer.named fs path = .ok layer ↔ layer.IsNamed fs path := by
  unfold Layer.named
  constructor
  · intro run
    split at run
    · exact .file (ofFile_eq_ok_iff.1 run)
    · cases run
      exact .absent
  · intro isNamed
    cases isNamed with
    | file specified => exact ofFile_eq_ok_iff.2 specified
    | absent => rfl

theorem Layer.global_eq_error_iff {fault : SettingsFault} :
    Layer.global fs env = .error fault ↔ ∃ file, env.settingsPath? = some file ∧
      fs.present file = true ∧ Refused fs file fault := by
  unfold Layer.global
  constructor
  · intro run
    split at run
    · rename_i file isPath
      split at run
      · rename_i isPresent
        exact ⟨file, isPath, isPresent, ofFile_eq_error_iff.1 run⟩
      · cases run
    · cases run
  · rintro ⟨file, isPath, isPresent, refused⟩
    rw [isPath]
    dsimp only
    rw [if_pos isPresent]
    exact ofFile_eq_error_iff.2 refused

theorem Layer.named_eq_error_iff {fault : SettingsFault} :
    Layer.named fs path = .error fault ↔ ∃ file, path = some file ∧ Refused fs file fault := by
  unfold Layer.named
  cases path with
  | none => exact ⟨nofun, nofun⟩
  | some file =>
    simp only [Option.some.injEq, exists_eq_left']
    exact ofFile_eq_error_iff

theorem Layer.exists_isGeneral_iff :
    (∃ layer : Layer, layer.IsGeneral fs env) ↔
      ∀ file, env.settingsPath? = some file → fs.present file = true →
        ∃ layer : Layer, layer.Specified fs file := by
  constructor
  · rintro ⟨layer, isGeneral⟩ file isPath isPresent
    cases isGeneral with
    | file isPath' isPresent' specified =>
      cases isPath.symm.trans isPath'
      exact ⟨layer, specified⟩
    | absent absent => cases isPresent.symm.trans (absent file isPath)
  · intro each
    by_cases found : ∃ file, env.settingsPath? = some file ∧ fs.present file = true
    · obtain ⟨file, isPath, isPresent⟩ := found
      obtain ⟨layer, specified⟩ := each file isPath isPresent
      exact ⟨layer, .file isPath isPresent specified⟩
    · refine ⟨{}, .absent fun file isPath => ?_⟩
      exact Bool.eq_false_iff.2 fun isPresent => found ⟨file, isPath, isPresent⟩

theorem Layer.exists_isNamed_iff :
    (∃ layer : Layer, layer.IsNamed fs path) ↔
      ∀ file, path = some file → ∃ layer : Layer, layer.Specified fs file := by
  constructor
  · rintro ⟨layer, ⟨specified⟩ | _⟩ file ⟨⟩
    exact ⟨layer, specified⟩
  · intro each
    cases path with
    | none => exact ⟨{}, .absent⟩
    | some file =>
      obtain ⟨layer, specified⟩ := each file rfl
      exact ⟨layer, .file specified⟩

theorem Layer.exists_isSaid_iff {values : Assoc String} :
    (∃ layer : Layer, layer.IsSaid values) ↔
      (∀ said, Setting.caseSensitive.said? values = some said → ∃ b, MeansTruth said b) ∧
        ∀ said, Setting.keyPolicy.said? values = some said → ∃ policy, MeansPolicy said policy := by
  rw [← exists_rel_iff, ← exists_rel_iff]
  constructor
  · rintro ⟨layer, isSaid⟩
    exact ⟨⟨_, isSaid.caseSensitive⟩, _, isSaid.keyPolicy⟩
  · rintro ⟨⟨caseSensitive, isTruth⟩, keyPolicy, isPolicy⟩
    exact ⟨{ dataFile := Setting.dataFile.said? values, caseSensitive, keyPolicy },
      rfl, isTruth, isPolicy⟩

/-! ## All layers -/

/-- Settings are those that layers decide, the strongest first: each one is what the first layer
specifies that does so, or else its default. The path of the data file is expanded. -/
structure DecidedBy (env : Environment) (layers : List Layer) (settings : Settings) : Prop where
  dataFile : settings.dataFile = (layers.findSome? Layer.dataFile).map (Expansion.expand env)
  caseSensitive :
    settings.matching.caseSensitive = (layers.findSome? Layer.caseSensitive).getD true
  keyPolicy : settings.matching.keyPolicy = (layers.findSome? Layer.keyPolicy).getD .inherit

theorem findSome?_cons_eq_or {α β : Type} (f : α → Option β) (a : α) (rest : List α) :
    (a :: rest).findSome? f = (f a).or (rest.findSome? f) := by
  rw [List.findSome?_cons]
  cases f a <;> rfl

/-- Layers over the defaults, the strongest first: each one lies over those behind it. -/
def ofLayers (layers : List Layer) : Settings :=
  layers.foldr (fun layer weaker => overlaid weaker layer) {}

/-- For each setting, the strongest layer that specifies it counts. -/
theorem ofLayers_eq (layers : List Layer) :
    ofLayers layers =
      { dataFile := layers.findSome? Layer.dataFile
        matching :=
          { caseSensitive := (layers.findSome? Layer.caseSensitive).getD true
            keyPolicy := (layers.findSome? Layer.keyPolicy).getD .inherit } } := by
  induction layers with
  | nil => rfl
  | cons layer weaker ih =>
    unfold ofLayers at ih ⊢
    rw [List.foldr_cons, ih]
    simp only [overlaid, findSome?_cons_eq_or, Option.getD_or]

theorem decidedBy_iff {layers : List Layer} :
    DecidedBy env layers settings ↔ (ofLayers layers).expanded env = settings := by
  rw [ofLayers_eq]
  constructor
  · intro decided
    obtain ⟨dataFile, caseSensitive, keyPolicy⟩ := settings
    cases decided.dataFile
    cases decided.caseSensitive
    cases decided.keyPolicy
    rfl
  · rintro rfl
    exact ⟨rfl, rfl, rfl⟩

/-- The layers of a run, the strongest first. -/
inductive AreLayers (fs : FileSystem) (env : Environment) (path : Option String) :
    List Layer → Prop
  | intro {general named said : Layer} : general.IsGeneral fs env → named.IsNamed fs path →
      said.IsSaid env.values → AreLayers fs env path [said, named, general]

theorem load_eq_ok_iff_ofLayers (plain : Setting.NameAll env.values) :
    load fs env path = .ok settings ↔
      ∃ layers, AreLayers fs env path layers ∧ (ofLayers layers).expanded env = settings := by
  unfold load
  simp only [bind_eq_ok_iff, Layer.global_eq_ok_iff, Layer.named_eq_ok_iff,
    Layer.ofVariables_eq_ok_iff plain]
  constructor
  · rintro ⟨general, isGeneral, named, isNamed, said, isSaid, loaded⟩
    exact ⟨_, .intro isGeneral isNamed isSaid, Except.ok.inj loaded⟩
  · rintro ⟨_, ⟨isGeneral, isNamed, isSaid⟩, rfl⟩
    exact ⟨_, isGeneral, _, isNamed, _, isSaid, rfl⟩

/-- Settings are loaded as the layers of the run decide them. -/
theorem load_eq_ok_iff (plain : Setting.NameAll env.values) :
    load fs env path = .ok settings ↔
      ∃ layers, AreLayers fs env path layers ∧ DecidedBy env layers settings := by
  simp only [load_eq_ok_iff_ofLayers plain, decidedBy_iff]

theorem exists_load_eq_ok_iff (plain : Setting.NameAll env.values) :
    (∃ settings, load fs env path = .ok settings) ↔
      (∃ layer : Layer, layer.IsGeneral fs env) ∧ (∃ layer : Layer, layer.IsNamed fs path) ∧
        ∃ layer : Layer, layer.IsSaid env.values := by
  simp only [load_eq_ok_iff_ofLayers plain]
  constructor
  · rintro ⟨_, _, ⟨isGeneral, isNamed, isSaid⟩, -⟩
    exact ⟨⟨_, isGeneral⟩, ⟨_, isNamed⟩, _, isSaid⟩
  · rintro ⟨⟨_, isGeneral⟩, ⟨_, isNamed⟩, _, isSaid⟩
    exact ⟨_, _, .intro isGeneral isNamed isSaid, rfl⟩

/-- Settings are not loaded exactly where the file for all runs is there but specifies no layer, or
the file that is named does not, or a variable says what means nothing. -/
theorem exists_load_eq_error_iff (plain : Setting.NameAll env.values) :
    (∃ fault, load fs env path = .error fault) ↔
      (∃ file, env.settingsPath? = some file ∧ fs.present file = true ∧
        ¬ ∃ layer : Layer, layer.Specified fs file) ∨
      (∃ file, path = some file ∧ ¬ ∃ layer : Layer, layer.Specified fs file) ∨
      (∃ said, Setting.caseSensitive.said? env.values = some said ∧ ¬ ∃ b, MeansTruth said b) ∨
      ∃ said, Setting.keyPolicy.said? env.values = some said ∧
        ¬ ∃ policy, MeansPolicy said policy := by
  rw [exists_eq_error_iff, exists_load_eq_ok_iff plain, Layer.exists_isGeneral_iff,
    Layer.exists_isNamed_iff, Layer.exists_isSaid_iff]
  simp only [not_and_or, not_forall, exists_prop]

/-- Why settings are not loaded: the weakest layer that is refused counts. -/
inductive Refused (fs : FileSystem) (env : Environment) (path : Option String) :
    SettingsFault → Prop
  | general {file : String} {fault : SettingsFault} : env.settingsPath? = some file →
      fs.present file = true → Layer.Refused fs file fault → Refused fs env path fault
  | named {general : Layer} {file : String} {fault : SettingsFault} : general.IsGeneral fs env →
      path = some file → Layer.Refused fs file fault → Refused fs env path fault
  | said {general named : Layer} {fault : SettingsFault} : general.IsGeneral fs env →
      named.IsNamed fs path → Layer.Missaid env.values fault → Refused fs env path fault

/-- Without a home directory no file counts but the one that is named, whatever the variables
say. -/
theorem load_congr_of_homeless {fs' : FileSystem} (homeless : env.home? = none)
    (same : ∀ file, path = some file → fs'.openFile file = fs.openFile file) :
    load fs' env path = load fs env path := by
  have noGeneral (files : FileSystem) : Layer.global files env = .ok {} := by
    unfold Layer.global
    rw [Environment.settingsPath?_eq_none_iff.2 homeless]
  have sameNamed : Layer.named fs' path = Layer.named fs path := by
    cases path with
    | none => rfl
    | some file =>
      have sameRead : fs'.read file = fs.read file := by
        unfold FileSystem.read
        rw [same file rfl]
      unfold Layer.named Layer.ofFile
      dsimp only
      rw [sameRead]
  unfold load
  rw [noGeneral, noGeneral, sameNamed]

/-- The fault that is reported is that of the weakest layer that is refused. -/
theorem load_eq_error_iff (plain : Setting.NameAll env.values) {fault : SettingsFault} :
    load fs env path = .error fault ↔ Refused fs env path fault := by
  unfold load
  simp only [bind_eq_error_iff, Layer.global_eq_ok_iff, Layer.named_eq_ok_iff,
    Layer.global_eq_error_iff, Layer.named_eq_error_iff, Layer.ofVariables_eq_error_iff plain]
  constructor
  · intro run
    rcases run with ⟨file, isPath, isPresent, refused⟩ | ⟨general, isGeneral, run⟩
    · exact .general isPath isPresent refused
    rcases run with ⟨file, isPath, refused⟩ | ⟨named, isNamed, missaid | ⟨said, -, ⟨⟩⟩⟩
    · exact .named isGeneral isPath refused
    · exact .said isGeneral isNamed missaid
  · intro refused
    cases refused with
    | general isPath isPresent refused => exact .inl ⟨_, isPath, isPresent, refused⟩
    | named isGeneral isPath refused => exact .inr ⟨_, isGeneral, .inl ⟨_, isPath, refused⟩⟩
    | said isGeneral isNamed missaid =>
      exact .inr ⟨_, isGeneral, .inr ⟨_, isNamed, .inl missaid⟩⟩

end EvidenceTree.Settings
