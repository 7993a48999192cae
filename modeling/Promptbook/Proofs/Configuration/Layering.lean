import Promptbook.Configuration.Source
import Promptbook.Proofs.Run.Temperature

/-!
# Layers of Settings, Setting by Setting

There are six settings, in two tables. The bundled settings, those of the user and those of the
directory at hand are laid over each other, table over table. If what stands in the place of a table
is one, and every setting can be read, then each setting is that of the uppermost layer that states
it, whatever the layers say of the others. Only what comes out is checked.

## Main definitions

* `Layer.Key`: the settings.
* `Layer.stated?`: what a layer states for a setting.
* `Layer.IsTyped`, `Layer.WellTyped`: the tables and settings of a layer can be read.
* `settled`: the configuration with given settings, and the standard ones for the others.
* `merged`: the configuration of the bundled settings under those of two layers.

## Main results

* `Layer.value?_setWithin`: what is laid over a table keeps what it does not state.
* `Layer.stated?_setMember`, `Layer.stated?_stack`: a layer over others keeps the settings that it
  does not state.
* `read?_of_isTyped`: a layer whose settings can be read is read setting by setting.
* `ofLayers_iff_merged`: what the layers of settings give, and when they are accepted.
-/

namespace Promptbook

namespace Layer

/-- The settings. -/
inductive Key where
  /-- The model of steps that name none. -/
  | model
  /-- The temperature of steps that state none. -/
  | temperature
  /-- How many steps a run may take. -/
  | maxSteps
  /-- The pause behind every piece of text. -/
  | tokenDelay
  /-- The pause behind every text. -/
  | latency
  /-- The text of steps that state none. -/
  | placeholder
  deriving DecidableEq

namespace Key

/-- All settings. -/
def all : List Key := [model, temperature, maxSteps, tokenDelay, latency, placeholder]

/-- No setting `key` is left out. -/
theorem mem_all (key : Key) : key ∈ all := by
  cases key <;> decide

/-- The table in which a setting stands. -/
def table : Key → String
  | model | temperature | maxSteps => "runtime"
  | tokenDelay | latency | placeholder => "simulation"

/-- The name of a setting in its table. -/
def name : Key → String
  | model => "default_model"
  | temperature => "default_temperature"
  | maxSteps => "max_steps"
  | tokenDelay => "token_delay_ms"
  | latency => "latency_ms"
  | placeholder => "placeholder"

/-- Whether a setting can be read from a value. -/
def accepts : Key → Value → Bool
  | model, v | placeholder, v => (text? v).isSome
  | temperature, v => (number? v).isSome
  | maxSteps, v | tokenDelay, v | latency, v => (count? v).isSome

end Key

/-- The members of a table `v`; what is no table has none. -/
def members (v : Value) : Fields Value :=
  v.object?.getD []

/-- What `layer` states for the setting `key`. -/
def stated? (layer : Fields Value) (key : Key) : Option Value :=
  (members ((layer.value? key.table).getD .null)).value? key.name

/-- The tables and settings of `layer` can be read. -/
structure IsTyped (layer : Fields Value) : Prop where
  /-- What stands in the place of a table is one. -/
  table : ∀ key : Key, (layer.value? key.table).all (·.object?.isSome) = true
  /-- A setting that is stated can be read. -/
  setting : ∀ key : Key, (stated? layer key).all key.accepts = true

instance : DecidablePred IsTyped := fun layer =>
  decidable_of_iff (∀ key ∈ Key.all, (layer.value? key.table).all (·.object?.isSome) = true ∧
      (stated? layer key).all key.accepts = true)
    ⟨fun h => ⟨fun key => (h key key.mem_all).1, fun key => (h key key.mem_all).2⟩,
      fun h key _ => ⟨h.table key, h.setting key⟩⟩

/-- Each entry of `layer` says something of tables and settings only that can be read. -/
def WellTyped (layer : Fields Value) : Prop :=
  ∀ entry ∈ layer, IsTyped (setMember [] entry.1 entry.2)

instance : DecidablePred WellTyped := fun layer =>
  inferInstanceAs (Decidable (∀ entry ∈ layer, IsTyped (setMember [] entry.1 entry.2)))

/-! ## A value over another -/

/-- Whether a value is not made of parts. -/
def isScalar : Value → Bool
  | .array _ | .object _ => false
  | _ => true

/-- Settings are read from values that are not made of parts. -/
theorem isScalar_of_accepts {key : Key} {v : Value} (h : key.accepts v = true) :
    isScalar v = true := by
  cases v with
  | array | object => cases key <;> cases h
  | _ => rfl

/-- A value `v` that is not made of parts replaces what it is laid over. -/
theorem cover_of_isScalar {v : Value} (h : isScalar v = true) (lower : Value) :
    cover lower v = v := by
  cases v with
  | object => cases h
  | _ => rfl

/-- A value `v` laid over another one is made of parts exactly if it is on its own. -/
theorem isScalar_cover (lower v : Value) : isScalar (cover lower v) = isScalar v := by
  cases v <;> rfl

/-- What stands at the end of the path `rest` does not depend on what it is laid over if it is not
made of parts. -/
theorem setWithin_of_isScalar {v : Value} {rest : List PathPart} {lower : Value}
    (h : isScalar (setWithin v rest lower) = true) (lower' : Value) :
    setWithin v rest lower' = setWithin v rest lower := by
  cases rest with
  | nil =>
    have hv : isScalar v = true := (isScalar_cover lower v).symm.trans h
    exact (cover_of_isScalar hv lower').trans (cover_of_isScalar hv lower).symm
  | cons part rest => cases part <;> cases h

/-- When `fields` are laid over `lower`, the last entry of a name is laid over some value, and names
without an entry are kept. -/
theorem value?_coverFields (lower : Fields Value) (fields : List (String × Value)) (name : String) :
    ∃ below, (coverFields lower fields).value? name =
      (((Fields.collect fields).value? name).map (cover below)).or (lower.value? name) := by
  induction fields generalizing lower with
  | nil => exact ⟨.null, rfl⟩
  | cons entry rest ih =>
    obtain ⟨below, hrest⟩ :=
      ih (lower.put entry.1 (cover ((lower.value? entry.1).getD .null) entry.2))
    rw [Fields.value?_put] at hrest
    simp only [coverFields, hrest, Fields.value?_collect_cons]
    -- A later entry of the name counts, else this one if it is of the name.
    cases (Fields.collect rest).value? name with
    | some v => exact ⟨below, rfl⟩
    | none =>
      refine ⟨(lower.value? entry.1).getD .null, ?_⟩
      split <;> rfl

/-- When a value `v` is laid over a table, a member that is not made of parts counts, and the
members that are not stated are kept. -/
theorem value?_setWithin {v : Value} {rest : List PathPart} {name : String}
    (htable : (setWithin v rest .null).object?.isSome = true)
    (hmember : ((members (setWithin v rest .null)).value? name).all isScalar = true)
    (lower : Value) :
    (members (setWithin v rest lower)).value? name =
      ((members (setWithin v rest .null)).value? name).or ((members lower).value? name) := by
  cases rest with
  | nil =>
    cases v with
    | object fields =>
      obtain ⟨below, hlower⟩ := value?_coverFields (members lower) fields name
      obtain ⟨below', halone⟩ := value?_coverFields [] fields name
      change (coverFields (members lower) fields).value? name =
        ((coverFields [] fields).value? name).or _
      change ((coverFields [] fields).value? name).all isScalar = true at hmember
      rw [halone, Fields.value?_nil, Option.or_none] at hmember ⊢
      rw [hlower]
      -- What is laid over another value is scalar only if it replaces it.
      cases hstated : (Fields.collect fields).value? name with
      | none => rfl
      | some w =>
        rw [hstated, Option.map_some, Option.all_some, isScalar_cover] at hmember
        simp [cover_of_isScalar hmember]
    | _ => cases htable
  | cons part rest =>
    cases part with
    | key first =>
      change Fields.value? (Fields.put (members lower) first _) name =
        (Fields.value? (Fields.put [] first _) name).or _
      change (Fields.value? (Fields.put [] first _) name).all isScalar = true at hmember
      simp only [Fields.value?_put, Fields.value?_nil] at hmember ⊢
      split at hmember
      · rename_i hfirst
        rw [if_pos hfirst, if_pos hfirst, setWithin_of_isScalar hmember]
        rfl
      · rename_i hfirst
        rw [if_neg hfirst, if_neg hfirst]
        rfl
    | index => cases htable

/-- Whether a value `v` at the end of a path makes a table does not depend on what it is laid
over. -/
theorem isSome_object?_setWithin (v : Value) (rest : List PathPart) (lower lower' : Value) :
    (setWithin v rest lower).object?.isSome = (setWithin v rest lower').object?.isSome := by
  cases rest with
  | nil => cases v <;> rfl
  | cons part rest => cases part <;> rfl

/-! ## An entry over the layers below -/

section Entry

variable {name : String} {v : Value}

/-- When an entry that can be read is laid over `lower`, the settings that it states count, and the
others are kept. -/
theorem stated?_setMember (h : IsTyped (setMember [] name v)) (lower : Fields Value) (key : Key) :
    stated? (setMember lower name v) key =
      (stated? (setMember [] name v) key).or (stated? lower key) := by
  have htable := h.table key
  have hsetting : (stated? (setMember [] name v) key).all isScalar = true :=
    Option.all_eq_true _ _ |>.2 fun w hw =>
      isScalar_of_accepts ((Option.all_eq_true _ _).1 (h.setting key) w hw)
  -- The entry is the table of the setting or a path into it, or it is about something else.
  simp only [stated?, setMember, Fields.value?_put, Fields.value?_nil] at htable hsetting ⊢
  split at htable
  · rename_i hfirst
    rw [if_pos hfirst] at hsetting ⊢
    rw [if_pos hfirst, hfirst]
    exact value?_setWithin htable hsetting _
  · rename_i hfirst
    rw [if_neg hfirst, if_neg hfirst]
    rfl

/-- An entry that can be read, laid over layers that can be read, leaves them so. -/
theorem IsTyped.setMember {lower : Fields Value} (hlower : IsTyped lower)
    (h : IsTyped (setMember [] name v)) : IsTyped (setMember lower name v) := by
  refine ⟨fun key => ?_, fun key => ?_⟩
  · have htable := h.table key
    simp only [Layer.setMember, Fields.value?_put, Fields.value?_nil] at htable ⊢
    split
    · rename_i hfirst
      rw [if_pos hfirst] at htable
      exact (isSome_object?_setWithin _ _ _ _).trans htable
    · exact hlower.table key
  · rw [stated?_setMember h]
    have hsetting := h.setting key
    cases hstated : stated? (Layer.setMember [] name v) key with
    | none => exact hlower.setting key
    | some w =>
      rw [hstated] at hsetting
      exact hsetting

end Entry

/-! ## Whole layers -/

/-- A layer that states nothing can be read. -/
theorem isTyped_nil : IsTyped [] :=
  ⟨fun _ => rfl, fun _ => rfl⟩

section Layers

variable {layer : Fields Value}

/-- When a `layer` that can be read is laid over `lower`, the settings that it states count, and the
others are kept. -/
theorem stated?_stack (h : WellTyped layer) (lower : Fields Value) (key : Key) :
    stated? (stack lower layer) key = (stated? (stack [] layer) key).or (stated? lower key) := by
  induction layer generalizing lower with
  | nil => rfl
  | cons entry rest ih =>
    obtain ⟨hentry, hrest⟩ := List.forall_mem_cons.1 h
    calc stated? (stack lower (entry :: rest)) key
        = (stated? (stack [] rest) key).or (stated? (setMember lower entry.1 entry.2) key) :=
          ih hrest _
      _ = ((stated? (stack [] rest) key).or (stated? (setMember [] entry.1 entry.2) key)).or
            (stated? lower key) := by rw [stated?_setMember hentry, Option.or_assoc]
      _ = (stated? (stack [] (entry :: rest)) key).or (stated? lower key) :=
          congrArg (Option.or · _) (ih hrest (setMember [] entry.1 entry.2)).symm

/-- A `layer` that can be read, laid over others that can be read, leaves them so. -/
theorem IsTyped.stack (h : WellTyped layer) {lower : Fields Value} (hlower : IsTyped lower) :
    IsTyped (Layer.stack lower layer) := by
  induction layer generalizing lower with
  | nil => exact hlower
  | cons entry rest ih =>
    obtain ⟨hentry, hrest⟩ := List.forall_mem_cons.1 h
    exact ih hrest (hlower.setMember hentry)

end Layers

end Layer

namespace Configuration

open Layer (Key WellTyped IsTyped stated?)

/-! ## What is read from a layer -/

/-- The configuration with the settings `given?`, and the standard ones for those that are not
given. -/
def settled (given? : Key → Option Value) : Configuration where
  run :=
    { model := ((given? .model).bind Layer.text?).getD RunSettings.standard.model
      temperature :=
        ((given? .temperature).bind Layer.number?).getD RunSettings.standard.temperature
      maxSteps := ((given? .maxSteps).bind Layer.count?).getD RunSettings.standard.maxSteps }
  simulation :=
    { tokenDelay :=
        ((given? .tokenDelay).bind Layer.count?).getD SimulationSettings.standard.tokenDelay
      latency := ((given? .latency).bind Layer.count?).getD SimulationSettings.standard.latency
      placeholder :=
        ((given? .placeholder).bind Layer.text?).getD SimulationSettings.standard.placeholder }

/-- A member that can be read if it is there is read, or has the default. -/
theorem memberOr_of_all {α : Type} {read? : Value → Option α} {stated : Option Value}
    (h : (stated.all fun v => (read? v).isSome) = true) (default : α) :
    memberOr read? default stated = some ((stated.bind read?).getD default) := by
  cases stated with
  | none => rfl
  | some v =>
    obtain ⟨x, hx⟩ := Option.isSome_iff_exists.1 h
    simp [memberOr, hx]

section Reading

variable {layer : Fields Value}

/-- The settings of every run are read setting by setting. -/
theorem read?_runtime (h : IsTyped layer) :
    memberOr (RunSettings.read? Layer.reading) .standard (layer.value? "runtime") =
      some (settled (stated? layer)).run := by
  have htable := h.table .model
  have hmodel := memberOr_of_all (h.setting .model) RunSettings.standard.model
  have htemperature := memberOr_of_all (h.setting .temperature) RunSettings.standard.temperature
  have hmaxSteps := memberOr_of_all (h.setting .maxSteps) RunSettings.standard.maxSteps
  simp only [settled, stated?, Key.table, Key.name] at htable hmodel htemperature hmaxSteps ⊢
  cases hstated : layer.value? "runtime" with
  | none => rfl
  | some v =>
    rw [hstated] at htable hmodel htemperature hmaxSteps
    cases v with
    | object fields =>
      change RunSettings.read? Layer.reading (.object fields) = _
      simp only [Layer.members, Value.object?, Option.getD_some] at hmodel htemperature hmaxSteps ⊢
      simp [RunSettings.read?, Layer.reading, Layer.members?, hmodel, htemperature, hmaxSteps]
    | _ => cases htable

/-- The settings of runs that generate no text are read setting by setting. -/
theorem read?_simulation (h : IsTyped layer) :
    memberOr (SimulationSettings.read? Layer.reading) .standard (layer.value? "simulation") =
      some (settled (stated? layer)).simulation := by
  have htable := h.table .latency
  have htokenDelay := memberOr_of_all (h.setting .tokenDelay) SimulationSettings.standard.tokenDelay
  have hlatency := memberOr_of_all (h.setting .latency) SimulationSettings.standard.latency
  have hplaceholder :=
    memberOr_of_all (h.setting .placeholder) SimulationSettings.standard.placeholder
  simp only [settled, stated?, Key.table, Key.name] at htable htokenDelay hlatency hplaceholder ⊢
  cases hstated : layer.value? "simulation" with
  | none => rfl
  | some v =>
    rw [hstated] at htable htokenDelay hlatency hplaceholder
    cases v with
    | object fields =>
      change SimulationSettings.read? Layer.reading (.object fields) = _
      simp only [Layer.members, Value.object?, Option.getD_some]
        at htokenDelay hlatency hplaceholder ⊢
      simp [SimulationSettings.read?, Layer.reading, Layer.members?, htokenDelay, hlatency,
        hplaceholder]
    | _ => cases htable

/-- A `layer` whose settings can be read is read setting by setting. -/
theorem read?_of_isTyped (h : IsTyped layer) :
    read? Layer.reading (.object layer) = some (settled (stated? layer)) := by
  have hrun := read?_runtime h
  have hsimulation := read?_simulation h
  simp only [Layer.reading] at hrun hsimulation
  simp [read?, Layer.reading, Layer.members?, hrun, hsimulation]

/-- From a `layer` whose settings can be read comes what it states, if it is allowed. -/
theorem ofLayer_of_isTyped (h : IsTyped layer) (origin : String) :
    ofLayer origin layer = (settled (stated? layer)).validate := by
  simp only [ofLayer, read?_of_isTyped h]

end Reading

/-! ## The layers of settings -/

/-- The bundled settings over nothing are the bundled settings. -/
theorem stack_bundledLayer : Layer.stack [] bundledLayer = bundledLayer := by
  decide +kernel

/-- The bundled settings can be read. -/
theorem isTyped_bundledLayer : IsTyped bundledLayer := by
  decide +kernel

/-- A value `lowest` below others does not count if the default is what is read from it. -/
theorem getD_bind_or {α : Type} {read? : Value → Option α} {lowest : Option Value} {default : α}
    (h : lowest.bind read? = some default) (stated : Option Value) :
    ((stated.or lowest).bind read?).getD default = (stated.bind read?).getD default := by
  cases stated with
  | none => rw [Option.none_or, h]; rfl
  | some v => rfl

/-- The bundled settings are the standard ones. -/
theorem settled_bundled (given? : Key → Option Value) :
    settled (fun key => (given? key).or (stated? bundledLayer key)) = settled given? := by
  have hmodel : (stated? bundledLayer .model).bind Layer.text? =
    some RunSettings.standard.model := by decide +kernel
  have htemperature : (stated? bundledLayer .temperature).bind Layer.number? =
    some RunSettings.standard.temperature := by decide +kernel
  have hmaxSteps : (stated? bundledLayer .maxSteps).bind Layer.count? =
    some RunSettings.standard.maxSteps := by decide +kernel
  have htokenDelay : (stated? bundledLayer .tokenDelay).bind Layer.count? =
    some SimulationSettings.standard.tokenDelay := by decide +kernel
  have hlatency : (stated? bundledLayer .latency).bind Layer.count? =
    some SimulationSettings.standard.latency := by decide +kernel
  have hplaceholder : (stated? bundledLayer .placeholder).bind Layer.text? =
    some SimulationSettings.standard.placeholder := by decide +kernel
  simp only [settled, getD_bind_or hmodel, getD_bind_or htemperature, getD_bind_or hmaxSteps,
    getD_bind_or htokenDelay, getD_bind_or hlatency, getD_bind_or hplaceholder]

/-- The configuration of the bundled settings under those of the layers `user` and `here`, setting
by setting. -/
def merged (user here : Fields Value) : Configuration :=
  settled fun key =>
    (stated? (Layer.stack [] here) key).or
      ((stated? (Layer.stack [] user) key).or (stated? bundledLayer key))

/-- The layer of the user, if there is a home directory. -/
def userLayer (tree : FileTree) : Option String → Except SourceFault (Fields Value)
  | some home => optionalLayerAt tree (userFile home)
  | none => .ok []

section Layers

variable {tree : FileTree} {home : Option String} {user here : Fields Value}

/-- What the layers of settings give is checked as a whole. -/
theorem ofLayers_eq_validate (huser : userLayer tree home = .ok user)
    (hhere : optionalLayerAt tree localFile = .ok here) (tuser : WellTyped user)
    (there : WellTyped here) : ofLayers tree home = (merged user here).validate := by
  have hlayers : ofLayers tree home = ofLayer layersOrigin
      (Layer.stack (Layer.stack (Layer.stack [] bundledLayer) user) here) := by
    cases home with
    | none =>
      cases huser
      simp only [ofLayers, hhere]
      rfl
    | some home =>
      change optionalLayerAt tree (userFile home) = _ at huser
      simp only [ofLayers, huser, hhere]
      rfl
  -- Three well-typed layers on one another are well typed, and of each setting the uppermost
  -- counts.
  have htyped : IsTyped (Layer.stack (Layer.stack bundledLayer user) here) :=
    (isTyped_bundledLayer.stack tuser).stack there
  rw [hlayers, stack_bundledLayer, ofLayer_of_isTyped htyped, merged]
  congr 2
  funext key
  rw [Layer.stated?_stack there, Layer.stated?_stack tuser]

/-- What the file at `location` gives is checked with the standard settings in place of those that
it does not state. -/
theorem ofFile_eq_validate {location : String} {layer : Fields Value}
    (hlayer : layerAt tree location = .ok layer) (t : WellTyped layer) :
    ofFile tree location = (settled (stated? (Layer.stack [] layer))).validate := by
  simp only [ofFile, hlayer]
  exact ofLayer_of_isTyped (Layer.isTyped_nil.stack t) location

/-- Where the user states nothing, the settings in `here` are over the standard ones. -/
theorem merged_nil_left (here : Fields Value) :
    merged [] here = settled (stated? (Layer.stack [] here)) :=
  settled_bundled _

/-- Where nothing is stated for the directory at hand, the settings in `user` are over the standard
ones. -/
theorem merged_nil_right (user : Fields Value) :
    merged user [] = settled (stated? (Layer.stack [] user)) :=
  settled_bundled _

end Layers

/-- Where the files of the user and of the directory at hand can be read, or are missing, each
setting is that of `here`, else that of `user`, else the bundled one, and only the outcome is
checked. One file alone gives what it gives in the place of either of them. -/
theorem ofLayers_iff_merged {tree : FileTree} {home : Option String} {user here : Fields Value}
    (huser : userLayer tree home = .ok user) (hhere : optionalLayerAt tree localFile = .ok here)
    (tuser : WellTyped user) (there : WellTyped here) :
    ofLayers tree home = (merged user here).validate ∧
    (∀ c, ofLayers tree home = .ok c ↔ c = merged user here ∧ 0 < c.run.maxSteps ∧
      IsTemperature c.run.temperature ∧ Text.isBlank c.run.model.toList = false) ∧
    ∀ tree' location, (layerAt tree' location = .ok user ∧ here = [] ∨
        user = [] ∧ layerAt tree' location = .ok here) →
      ofFile tree' location = ofLayers tree home := by
  have hvalidate := ofLayers_eq_validate huser hhere tuser there
  refine ⟨hvalidate, fun c => ?_, fun tree' location hlayer => ?_⟩
  · rw [hvalidate, validate_eq_ok, allowsTemperature_iff]
    constructor
    · rintro ⟨rfl, hallowed⟩
      exact ⟨rfl, hallowed⟩
    · rintro ⟨rfl, hallowed⟩
      exact ⟨rfl, hallowed⟩
  · rw [hvalidate]
    obtain ⟨hlayer, rfl⟩ | ⟨rfl, hlayer⟩ := hlayer
    · rw [ofFile_eq_validate hlayer tuser, merged_nil_right]
    · rw [ofFile_eq_validate hlayer there, merged_nil_left]

/-- Settings of the user that allow no step, and settings of the directory at hand that do. -/
def overriding : FileTree :=
  let top : FileTree := { entries := [], here := ["work"] }
  let user := "[runtime]\nmax_steps = 0\ndefault_temperature = 0.25\n"
  let here := "[runtime]\nmax_steps = 8\n\n[simulation]\nlatency_ms = 1\n"
  (top.add ["home", ".config", "promptweave", "promptweave.toml"] (.file user.toUTF8)).add
    ["work", "promptweave.toml"] (.file here.toUTF8)

/-- What is not allowed in the settings of the user alone does no harm below what is. -/
theorem ofLayers_iff_merged_overriding :
    ∃ user here, userLayer overriding (some "/home") = .ok user ∧
      optionalLayerAt overriding localFile = .ok here ∧ WellTyped user ∧ WellTyped here ∧
      (settled (stated? user)).validate =
        .error (.configuration "runtime.max_steps must be at least 1") ∧
      ofLayers overriding (some "/home") =
        .ok ⟨⟨"openai/gpt-4o", 0.25, 8⟩, { SimulationSettings.standard with latency := 1 }⟩ := by
  let user : Fields Value :=
    [("runtime", .object [("default_temperature", .double 0.25), ("max_steps", .int 0)])]
  let here : Fields Value :=
    [("runtime", .object [("max_steps", .int 8)]), ("simulation", .object [("latency_ms", .int 1)])]
  have huser : userLayer overriding (some "/home") = .ok user := by decide +kernel
  have hhere : optionalLayerAt overriding localFile = .ok here := by decide +kernel
  have tuser : WellTyped user := by decide +kernel
  have there : WellTyped here := by decide +kernel
  refine ⟨user, here, huser, hhere, tuser, there, by decide +kernel, ?_⟩
  exact ((ofLayers_iff_merged huser hhere tuser there).2.1 _).2
    ⟨by decide +kernel, by decide, by decide +kernel, by decide +kernel⟩

end Configuration

end Promptbook
