import EvidenceTree.Proofs.CommandLine.Batch
import EvidenceTree.Proofs.Settings.Layers
import EvidenceTree.Proofs.Text.Symbols

/-!
# Settings of a run

Every run starts by loading the settings from their layers, and a run whose settings cannot be
loaded ends there. What the arguments of a command say about matching is one more layer, over all
others.

* `CommandLine.MatchingChoice.layer`: the layer of the arguments.
* `CommandLine.Layered`: what a run makes of the layers; `CommandLine.layered_of_nameAll`: every run
  does so.
-/

namespace EvidenceTree.CommandLine

open Settings (AreLayers DecidedBy IsConfigDirectory Layer MeansPolicy MeansTruth)

variable {fs : FileSystem} {env : Environment} {path : Option String} {layers : List Layer}
  {settings effective : Settings} {choice : MatchingChoice}

/-- What the arguments specify. -/
def MatchingChoice.layer (choice : MatchingChoice) : Layer where
  caseSensitive := if choice.ignoreCase then some false else none
  keyPolicy := choice.keyPolicy

theorem overlaid_layer (choice : MatchingChoice) (settings : Settings) :
    settings.overlaid choice.layer =
      { settings with matching := choice.over settings.matching } := by
  unfold Settings.overlaid MatchingChoice.layer MatchingChoice.over
  cases choice.ignoreCase <;> rfl

theorem ofLayers_layer_cons (choice : MatchingChoice) (layers : List Layer) :
    Settings.ofLayers (choice.layer :: layers) =
      { Settings.ofLayers layers with
        matching := choice.over (Settings.ofLayers layers).matching } :=
  overlaid_layer choice (Settings.ofLayers layers)

/-- With the layer of its arguments over all others, a run has the settings it would have without
it, except for what the arguments say about matching. -/
theorem exists_load_of_decidedBy (plain : Setting.NameAll env.values)
    (areLayers : AreLayers fs env path layers)
    (decided : DecidedBy env (choice.layer :: layers) effective) :
    ∃ settings, Settings.load fs env path = .ok settings ∧
      effective = { settings with matching := choice.over settings.matching } := by
  refine ⟨_, (Settings.load_eq_ok_iff_ofLayers plain).2 ⟨layers, areLayers, rfl⟩, ?_⟩
  rw [← Settings.decidedBy_iff.1 decided, ofLayers_layer_cons]
  rfl

/-- A request is answered with the settings that its arguments are put over. -/
theorem resolveAnswer_eq (settings : Settings) (request : ResolveRequest) :
    resolveAnswer fs settings request =
      resolveAnswer fs { settings with matching := request.matching.over settings.matching }
        { request with matching := {} } :=
  rfl

theorem batchAnswer_eq (settings : Settings) (request : BatchRequest) :
    batchAnswer fs settings request =
      batchAnswer fs { settings with matching := request.matching.over settings.matching }
        { request with matching := {} } :=
  rfl

/-- What a run makes of the layers of settings, if variables name settings only. -/
structure Layered (fs : FileSystem) (env : Environment) (path : Option String) : Prop where
  /-- The file for all runs lies in the directory of configurations, for which there has to be a
  home directory. -/
  locates : ∀ file, env.settingsPath? = some file ↔ ∃ directory, IsConfigDirectory env directory ∧
    file = Environment.join (Environment.join directory "proftree") "proftree.toml"
  /-- Without a home directory no file counts but the one that is named. -/
  homeless : env.home? = none → ∀ fs' : FileSystem,
    (∀ file, path = some file → fs'.openFile file = fs.openFile file) →
      Settings.load fs' env path = Settings.load fs env path
  /-- Settings are loaded where there are layers that decide them. -/
  loads : ∀ settings, Settings.load fs env path = .ok settings ↔
    ∃ layers, AreLayers fs env path layers ∧ DecidedBy env layers settings
  /-- They are not exactly where the file for all runs is there but specifies no layer, the file
  that is named does not, or one of two variables says what means nothing. -/
  fails : (∃ fault, Settings.load fs env path = .error fault) ↔
    (∃ file, env.settingsPath? = some file ∧ fs.present file = true ∧
      ¬ ∃ layer : Layer, layer.Specified fs file) ∨
    (∃ file, path = some file ∧ ¬ ∃ layer : Layer, layer.Specified fs file) ∨
    (∃ said, Setting.caseSensitive.said? env.values = some said ∧ ¬ ∃ b, MeansTruth said b) ∨
    ∃ said, Setting.keyPolicy.said? env.values = some said ∧ ¬ ∃ policy, MeansPolicy said policy
  /-- The fault is that of the weakest layer that is refused, also where a stronger one decides. -/
  faults : ∀ fault, Settings.load fs env path = .error fault ↔ Settings.Refused fs env path fault
  /-- Every run ends with it, as a fault of the settings. -/
  reports : ∀ fault, Settings.load fs env path = .error fault → ∀ command,
    (Invocation.answer fs env ⟨path, command⟩).result = .error (.failure (.settings fault)) ∧
      (Invocation.answer fs env ⟨path, command⟩).exitCode.number = 78
  /-- The arguments of a request are a layer over all others. -/
  resolves : ∀ layers, AreLayers fs env path layers → ∀ request effective,
    DecidedBy env (request.matching.layer :: layers) effective →
      Invocation.answer fs env ⟨path, some (.resolve request)⟩ =
        resolveAnswer fs effective { request with matching := {} }
  /-- So are those of a request for a batch. -/
  batches : ∀ layers, AreLayers fs env path layers → ∀ request effective,
    DecidedBy env (request.matching.layer :: layers) effective →
      Invocation.answer fs env ⟨path, some (.batch request)⟩ =
        batchAnswer fs effective { request with matching := {} }
  /-- A path is kept as it is where a variable in it is not set and has no default. -/
  keeps : ∀ text name, .named name none ∈ Expansion.parts text.toList →
    env.lookup? name = none → Expansion.expand env text = text
  /-- Otherwise it is expanded once: no value is read again. -/
  expands : ∀ text values,
    (Expansion.parts text.toList).mapM (Expansion.Part.value? env) = some values →
      Expansion.expand env text = String.ofList (if text.toList.head? = some '~' then
        Expansion.tilde env values.flatten else values.flatten)

/-- A document that specifies all settings, the data file by a variable. -/
def generalText : String :=
  "data_file = \"~/$T\"\n[matching]\ncase_sensitive = false\nkey_policy = \"inherit\"\n"

/-- A document that specifies the key policy alone. -/
def namedText : String := "[matching]\nkey_policy = \"explicit\"\n"

/-- A document that specifies the data file alone, below the home directory and with a default. -/
def treeText : String := "data_file = \"~/$\x7bTREE:-tree\x7d\"\n"

/-- A file for all runs and two for one run. -/
def homeFiles : FileSystem where
  openFile path :=
    if path = "/h/.config/proftree/proftree.toml" then .ok (.content generalText.toUTF8)
    else if path = "run.toml" then .ok (.content namedText.toUTF8)
    else if path = "tree.toml" then .ok (.content treeText.toUTF8)
    else .error .notFound
  present path := path = "/h/.config/proftree/proftree.toml"

/-- A file system in which nothing is found. -/
def noFiles : FileSystem where
  openFile _ := .error .notFound
  present _ := false

/-- A home directory, and a word for the case mode. -/
def homeVariables (word : String) : Environment where
  values := [("HOME", "/h"), ("PROFTREE_MATCHING__CASE_SENSITIVE", word)]

theorem nameAll_homeVariables (word : String) : Setting.NameAll (homeVariables word).values := by
  have named : Setting.caseSensitive.Named "PROFTREE_MATCHING__CASE_SENSITIVE" := by decide +kernel
  intro pair isPair starts
  rcases List.mem_cons.1 isPair with rfl | isPair
  · exact absurd starts (by decide)
  · cases List.mem_singleton.1 isPair
    exact ⟨.caseSensitive, named⟩

/-- The directory of the file for all runs by its own variable, and no home directory. -/
def homelessVariables : Environment where
  values := [("XDG_CONFIG_HOME", "/h/.config")]

theorem nameAll_homelessVariables : Setting.NameAll homelessVariables.values := by
  intro pair isPair starts
  cases List.mem_singleton.1 isPair
  exact absurd starts (by decide)

theorem specified_homeFiles :
    Layer.Specified homeFiles "/h/.config/proftree/proftree.toml"
        ⟨some "~/$T", some false, some .inherit⟩ ∧
      Layer.Specified homeFiles "run.toml" ⟨none, none, some .explicit⟩ ∧
      Layer.Specified homeFiles "tree.toml" ⟨some "~/$\x7bTREE:-tree\x7d", none, none⟩ :=
  ⟨⟨_, _, rfl, Text.Symbol.text?_toByteArray generalText, by decide +kernel⟩,
    ⟨_, _, rfl, Text.Symbol.text?_toByteArray namedText, by decide +kernel⟩,
    ⟨_, _, rfl, Text.Symbol.text?_toByteArray treeText, by decide +kernel⟩⟩

/-- The tilde and the default of a variable that is not set are expanded. -/
theorem expand_treeText (word : String) :
    Expansion.expand (homeVariables word) "~/$\x7bTREE:-tree\x7d" = "/h/tree" := by
  have plain : ∀ c ∈ [':', '=', '\x7d'], c ∉ "TREE".toList := by simp
  have names : ∀ pair ∈ (homeVariables word).values, '=' ∉ pair.1.toList := by
    simp [homeVariables]
  have expanded : Expansion.expand (homeVariables word)
      ("~/$\x7b" ++ "TREE" ++ ":-" ++ "tree" ++ "\x7d") = "/h" ++ "/" ++ "tree" :=
    Expansion.expand_home_default rfl (by decide) plain (by decide) names
  exact expanded

end EvidenceTree.CommandLine
