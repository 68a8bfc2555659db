import NetStrike.Shared.Events

/-!
# Scenario definitions

`orchestrator/scenario.py`. A `ScenarioItem` and a `ScenarioDefinition` carry what `from_dict` checks
as fields, so a definition that the parser refuses cannot be built: item ids are unique, a checkpoint
item is its own checkpoint, and every checkpoint trigger names a checkpoint of the scenario.
`fromDict` is the parser with its errors in the order of the source.
-/

set_option autoImplicit false

namespace NetStrike.Orchestrator

open NetStrike.Foundation NetStrike.Shared

/-! ## Enumerations -/

/-- `_ITEM_KINDS`. -/
inductive ItemKind where
  | setup
  | inject
  | action
  | checkpoint
  | endMarker
deriving DecidableEq

/-- The name of the kind. -/
def ItemKind.value : ItemKind → String
  | setup => "setup"
  | inject => "inject"
  | action => "action"
  | checkpoint => "checkpoint"
  | endMarker => "end"

/-- `_DELIVERY_MODES`. -/
inductive DeliveryMode where
  | automatic
  | facilitator
deriving DecidableEq

/-- The name of the mode. -/
def DeliveryMode.value : DeliveryMode → String
  | automatic => "automatic"
  | facilitator => "facilitator"

/-- `_PHASES`. -/
inductive Phase where
  | setup
  | reconnaissance
  | identity
  | endpoint_ad
  | cloud
  | impact_recovery
  | control
  | post_exercise
deriving DecidableEq

/-- The name of the phase. -/
def Phase.value : Phase → String
  | setup => "setup"
  | reconnaissance => "reconnaissance"
  | identity => "identity"
  | endpoint_ad => "endpoint_ad"
  | cloud => "cloud"
  | impact_recovery => "impact_recovery"
  | control => "control"
  | post_exercise => "post_exercise"

/-- `_VISIBILITIES`. -/
inductive Visibility where
  | participant
  | facilitator
  | evaluator
  | internal
deriving DecidableEq

/-- The name of the audience. -/
def Visibility.value : Visibility → String
  | participant => "participant"
  | facilitator => "facilitator"
  | evaluator => "evaluator"
  | internal => "internal"

/-- A recorded result of a checkpoint. -/
inductive CheckpointOutcome where
  | pass
  | miss
deriving DecidableEq

/-- The name of the outcome. -/
def CheckpointOutcome.value : CheckpointOutcome → String
  | pass => "pass"
  | miss => "miss"

/-- The member of an enumeration that has the given name. -/
def byValue {α : Type} (value : α → String) (members : List α) (name : String) : Option α :=
  members.find? fun a => value a == name

/-! ## Items -/

/-- The trigger types with their own fields. -/
inductive TriggerType where
  | pre_exercise
  | elapsed (seconds : Int)
  | checkpoint (checkpoint_id : String) (checkpoint_outcome : CheckpointOutcome)
deriving DecidableEq

/-- `ScenarioTrigger`. -/
structure ScenarioTrigger where
  trigger_type : TriggerType
  order : Int
deriving DecidableEq

/-- `DP[1-9][0-9]*`. -/
def checkpointPattern : Pattern := numberedPattern "DP"

/-- `LO[1-9][0-9]*`. -/
def objectivePattern : Pattern := numberedPattern "LO"

/-- `ScenarioItem`, with the checks of `from_dict` on its fields. -/
structure ScenarioItem where
  item_id : String
  kind : ItemKind
  title : String
  summary : String
  phase : Phase
  delivery : DeliveryMode
  visibility : Visibility
  trigger : ScenarioTrigger
  action_id : Option String
  objective_ids : List String
  checkpoint_id : Option String
  participant_prompt : Option String
  item_id_valid : identifierPattern.accepts item_id = true
  action_id_valid : ∀ a, action_id = some a → eventNamePattern.accepts a = true
  action_required : (kind = .setup ∨ kind = .action) → delivery = .automatic → action_id ≠ none
  objective_ids_valid : ∀ o ∈ objective_ids, objectivePattern.accepts o = true
  checkpoint_id_valid : ∀ c, checkpoint_id = some c → checkpointPattern.accepts c = true
  checkpoint_own : kind = .checkpoint → checkpoint_id = some item_id
deriving DecidableEq

namespace ScenarioItem

/-- The item is a branch of the checkpoint. -/
def isBranchOf (item : ScenarioItem) (checkpoint_id : String) : Bool :=
  match item.trigger.trigger_type with
  | .checkpoint id _ => id == checkpoint_id
  | _ => false

/-- The outcome that triggers a branch item. -/
def branchOutcome (item : ScenarioItem) : Option CheckpointOutcome :=
  match item.trigger.trigger_type with
  | .checkpoint _ outcome => some outcome
  | _ => none

/-- A due item waits for a facilitator instead of being delivered. -/
def Waits (item : ScenarioItem) : Prop := item.delivery = .facilitator ∨ item.kind = .checkpoint

instance (item : ScenarioItem) : Decidable item.Waits := inferInstanceAs (Decidable (_ ∨ _))

end ScenarioItem

/-- `ScenarioDefinition`, with the checks of `from_dict` across its items. -/
structure ScenarioDefinition where
  schema_version : String
  scenario_id : String
  exercise_id : String
  name : String
  items : List ScenarioItem
  participant_experience : List (String × Json)
  schema_version_valid : schemaVersionPattern.accepts schema_version = true
  ids_valid : identifierPattern.accepts scenario_id = true ∧
    identifierPattern.accepts exercise_id = true
  items_nonempty : items ≠ []
  ids_unique : (items.map ScenarioItem.item_id).Nodup
  checkpoints_known : ∀ item ∈ items, ∀ id outcome,
    item.trigger.trigger_type = .checkpoint id outcome →
      ∃ c ∈ items, c.kind = .checkpoint ∧ c.checkpoint_id = some id
deriving DecidableEq

/-! ## Parsing -/

/-- Refuse a scenario. -/
def scenarioError {α : Type} (message : String) : Except Exn α :=
  .error (.of .ScenarioDefinitionError message)

/-- Go on with a proof of the condition, or refuse the scenario. -/
def checked (p : Prop) [Decidable p] (message : String) : Except Exn (PLift p) :=
  if h : p then .ok ⟨h⟩ else scenarioError message

/-- `_required_string`. -/
def requiredString (value : Json) (name : String) : Except Exn String :=
  match value.get? name with
  | some (.str s) =>
      if Blank s then scenarioError s!"{name} must be a non-empty string" else .ok (strip s)
  | _ => scenarioError s!"{name} must be a non-empty string"

/-- A Python integer; `True` and `False` are integers too. -/
def asInt : Json → Option Int
  | .int n => some n
  | .bool b => some (if b then 1 else 0)
  | _ => none

/-- A member that may be missing or null. -/
def optionalValue (value : Json) (name : String) : Option Json :=
  match value.get? name with
  | some .null => none
  | j => j

/-- `ScenarioTrigger.from_dict`. -/
def ScenarioTrigger.fromDict (value : Json) : Except Exn ScenarioTrigger := do
  let trigger_type ← requiredString value "type"
  if trigger_type ∉ ["pre_exercise", "elapsed", "checkpoint"] then
    scenarioError s!"unsupported trigger type: {trigger_type}"
  let order ← match asInt ((value.get? "order").getD (.int 0)) with
    | some n => if n < 0 then scenarioError "trigger order must be a non-negative integer" else pure n
    | none => scenarioError "trigger order must be a non-negative integer"
  if trigger_type = "elapsed" then
    match (value.get? "seconds").bind asInt with
    | some seconds =>
        if seconds < 0 then scenarioError "elapsed triggers require non-negative integer seconds"
        else return ⟨.elapsed seconds, order⟩
    | none => scenarioError "elapsed triggers require non-negative integer seconds"
  else if trigger_type = "checkpoint" then
    let checkpoint_id ← requiredString value "checkpoint_id"
    let outcome ← requiredString value "outcome"
    if checkpointPattern.accepts checkpoint_id = false then
      scenarioError "checkpoint_id must look like DP1"
    match byValue CheckpointOutcome.value [.pass, .miss] outcome with
    | some outcome => return ⟨.checkpoint checkpoint_id outcome, order⟩
    | none => scenarioError "checkpoint outcome must be pass or miss"
  else return ⟨.pre_exercise, order⟩

/-- The member of an enumeration with the given name, or the error of an unsupported name. -/
def supported {α : Type} (what : String) (value : α → String) (members : List α)
    (name : String) : Except Exn α :=
  match byValue value members name with
  | some a => .ok a
  | none => scenarioError s!"unsupported {what}: {name}"

/-- A nullable string member; any other value raises `e`. -/
def optionalString (value : Json) (name : String) (e : Exn) : Except Exn (Option String) :=
  match optionalValue value name with
  | none => .ok none
  | some (.str s) => .ok (some s)
  | some _ => .error e

/-- The strings of a JSON array, or nothing when the value is not an array of strings. -/
def asStrings : Json → Option (List String)
  | .arr items => items.mapM fun j =>
      match j with
      | .str s => some s
      | _ => none
  | _ => none

/-- `ScenarioItem.from_dict`. -/
def ScenarioItem.fromDict (value : Json) : Except Exn ScenarioItem := do
  let item_id ← requiredString value "id"
  let kind ← requiredString value "kind"
  let title ← requiredString value "title"
  let summary ← requiredString value "summary"
  let phase ← requiredString value "phase"
  let delivery ← requiredString value "delivery"
  let visibility ← requiredString value "visibility"
  let ⟨hid⟩ ← checked (identifierPattern.accepts item_id = true) s!"invalid item id: {item_id}"
  let kind ← supported "kind" ItemKind.value
    [.setup, .inject, .action, .checkpoint, .endMarker] kind
  let phase ← supported "phase" Phase.value
    [.setup, .reconnaissance, .identity, .endpoint_ad, .cloud, .impact_recovery, .control,
      .post_exercise] phase
  let delivery ← supported "delivery mode" DeliveryMode.value [.automatic, .facilitator] delivery
  let visibility ← supported "visibility" Visibility.value
    [.participant, .facilitator, .evaluator, .internal] visibility
  let trigger ← match value.get? "trigger" with
    | some (.obj members) => ScenarioTrigger.fromDict (.obj members)
    | _ => scenarioError s!"{item_id} requires a trigger object"
  let action_id ← optionalString value "action_id"
    (.of .ScenarioDefinitionError s!"invalid action_id for {item_id}")
  let ⟨haction⟩ ← checked (∀ a ∈ action_id, eventNamePattern.accepts a = true)
    s!"invalid action_id for {item_id}"
  let ⟨hrequired⟩ ← checked
    ((kind = .setup ∨ kind = .action) → delivery = .automatic → action_id ≠ none)
    s!"automatic {kind.value} item {item_id} requires an action_id"
  let objective_ids ← match asStrings ((value.get? "objective_ids").getD (.arr [])) with
    | some ids => pure ids
    | none => scenarioError s!"invalid objective_ids for {item_id}"
  let ⟨hobjectives⟩ ← checked
    (∀ o ∈ firstOccurrences objective_ids, objectivePattern.accepts o = true)
    s!"invalid objective_ids for {item_id}"
  let checkpoint_id ← optionalString value "checkpoint_id"
    (.of .ScenarioDefinitionError s!"invalid checkpoint_id for {item_id}")
  let ⟨hcheckpoint⟩ ← checked (∀ c ∈ checkpoint_id, checkpointPattern.accepts c = true)
    s!"invalid checkpoint_id for {item_id}"
  let ⟨hown⟩ ← checked (kind = .checkpoint → checkpoint_id = some item_id)
    s!"checkpoint item {item_id} must use the same checkpoint_id"
  let participant_prompt ← optionalString value "participant_prompt"
    (.of .ScenarioDefinitionError
      s!"participant_prompt for {item_id} must be a non-empty string")
  let _ ← checked (∀ prompt ∈ participant_prompt, ¬ Blank prompt)
    s!"participant_prompt for {item_id} must be a non-empty string"
  return {
    item_id, kind, title, summary, phase, delivery, visibility, trigger, action_id
    objective_ids := firstOccurrences objective_ids
    checkpoint_id, participant_prompt
    item_id_valid := hid
    action_id_valid := fun a ha => haction a (Option.mem_def.mpr ha)
    action_required := hrequired
    objective_ids_valid := hobjectives
    checkpoint_id_valid := fun c hc => hcheckpoint c (Option.mem_def.mpr hc)
    checkpoint_own := hown }

/-- The item is no branch, or a branch of a checkpoint among the items. -/
def ScenarioItem.KnownCheckpoint (items : List ScenarioItem) (item : ScenarioItem) : Prop :=
  match item.trigger.trigger_type with
  | .checkpoint id _ => ∃ c ∈ items, c.kind = .checkpoint ∧ c.checkpoint_id = some id
  | _ => True

instance (items : List ScenarioItem) (item : ScenarioItem) :
    Decidable (item.KnownCheckpoint items) := by
  unfold ScenarioItem.KnownCheckpoint
  split <;> infer_instance

/-- The id of the first item whose checkpoint is unknown. -/
def firstUnknown (items : List ScenarioItem) : String :=
  match items.find? fun item => !decide (item.KnownCheckpoint items) with
  | some item => item.item_id
  | none => ""

/-- `ScenarioDefinition.from_dict`. -/
def ScenarioDefinition.fromDict (value : Json) : Except Exn ScenarioDefinition := do
  let schema_version ← requiredString value "schema_version"
  let scenario_id ← requiredString value "scenario_id"
  let exercise_id ← requiredString value "exercise_id"
  let name ← requiredString value "name"
  let ⟨hversion⟩ ← checked (schemaVersionPattern.accepts schema_version = true)
    "only scenario schema major version 1 is supported"
  let ⟨hids⟩ ← checked (identifierPattern.accepts scenario_id = true ∧
      identifierPattern.accepts exercise_id = true) "scenario_id and exercise_id are invalid"
  let participant_experience ← match (value.get? "participant_experience").getD (.obj []) with
    | .obj members => pure members
    | _ => scenarioError "participant_experience must be an object"
  let raw_items ← match value.get? "items" with
    | some (.arr items) => pure items
    | _ => scenarioError "scenario requires at least one item"
  if raw_items.any fun j => !JsonType.object.admits j then
    scenarioError "every scenario item must be an object"
  let items ← raw_items.mapM ScenarioItem.fromDict
  -- An empty array passes the two checks above, so the source's earlier test comes to the same.
  let ⟨hnonempty⟩ ← checked (items ≠ []) "scenario requires at least one item"
  let ⟨hunique⟩ ← checked (items.map ScenarioItem.item_id).Nodup "scenario item ids must be unique"
  let ⟨hknown⟩ ← checked (∀ item ∈ items, item.KnownCheckpoint items)
    s!"{firstUnknown items} references an unknown checkpoint"
  return {
    schema_version, scenario_id, exercise_id, name, items, participant_experience
    schema_version_valid := hversion
    ids_valid := hids
    items_nonempty := hnonempty
    ids_unique := hunique
    checkpoints_known := fun item hitem id outcome htrigger => by
      have h := hknown item hitem
      unfold ScenarioItem.KnownCheckpoint at h
      rwa [htrigger] at h }

/-! ## What the parser guarantees -/

/-- Every value that the parser returns satisfies `P`. -/
def Yields {α : Type} (x : Except Exn α) (P : α → Prop) : Prop := ∀ a, x = .ok a → P a

theorem Yields.pure {α : Type} {a : α} {P : α → Prop} (h : P a) :
    Yields (pure a : Except Exn α) P := by
  rintro b ⟨⟩
  exact h

theorem Yields.error {α : Type} (message : String) (P : α → Prop) :
    Yields (scenarioError message) P := fun _ h => nomatch h

protected theorem Yields.bind {α β : Type} {x : Except Exn α} {f : α → Except Exn β}
    {Q : α → Prop} {P : β → Prop} (hx : Yields x Q) (hf : ∀ a, Q a → Yields (f a) P) :
    Yields (x >>= f) P := by
  intro b hb
  cases x with
  | ok a => exact hf a (hx a rfl) b hb
  | error e => cases hb

theorem Yields.any {α : Type} (x : Except Exn α) : Yields x fun _ => True := fun _ _ => trivial

/-- The second part of a parser decides. -/
theorem Yields.then {α β : Type} {x : Except Exn α} {f : α → Except Exn β} {P : β → Prop}
    (hf : ∀ a, Yields (f a) P) : Yields (x >>= f) P :=
  Yields.bind (Yields.any x) fun a _ => hf a

/-- A required string is not empty. -/
theorem requiredString_yields (value : Json) (name : String) :
    Yields (requiredString value name) fun s => s ≠ "" := by
  unfold requiredString
  split
  · split_ifs with hblank
    · exact Yields.error _ _
    · exact Yields.pure hblank
  · exact Yields.error _ _

/-- The seconds of a parsed elapsed trigger are not negative. -/
theorem ScenarioTrigger.fromDict_seconds (value : Json) :
    Yields (ScenarioTrigger.fromDict value) fun trigger =>
      ∀ seconds, trigger.trigger_type = .elapsed seconds → 0 ≤ seconds := by
  unfold ScenarioTrigger.fromDict
  refine Yields.then fun trigger_type => ?_
  -- The continuations after the checks on the order and on the type.
  extract_lets build order
  have hbuild : ∀ order, Yields (build order) fun trigger =>
      ∀ seconds, trigger.trigger_type = .elapsed seconds → 0 ≤ seconds := by
    intro order
    dsimp -zeta only [build]
    split_ifs
    · split
      · split_ifs with hseconds
        · exact Yields.error _ _
        · refine Yields.pure ?_
          rintro seconds ⟨⟩
          exact not_lt.mp hseconds
      · exact Yields.error _ _
    · refine Yields.then fun checkpoint_id => Yields.then fun outcome => ?_
      extract_lets branch
      have hbranch : ∀ u, Yields (branch u) fun trigger =>
          ∀ seconds, trigger.trigger_type = .elapsed seconds → 0 ≤ seconds := by
        intro u
        dsimp -zeta only [branch]
        split
        · refine Yields.pure ?_
          rintro seconds ⟨⟩
        · exact Yields.error _ _
      split_ifs
      · exact Yields.then hbranch
      · exact hbranch ()
    · refine Yields.pure ?_
      rintro seconds ⟨⟩
  have horder : ∀ u, Yields (order u) fun trigger =>
      ∀ seconds, trigger.trigger_type = .elapsed seconds → 0 ≤ seconds := by
    intro u
    dsimp -zeta only [order]
    split
    · split_ifs
      · exact Yields.then hbuild
      · exact Yields.then hbuild
    · exact Yields.then hbuild
  split_ifs
  · exact horder ()
  · exact Yields.then horder

/-- A parsed item has a summary, and its trigger lies at no negative second. -/
structure ScenarioItem.Parsed (item : ScenarioItem) : Prop where
  summary : item.summary ≠ ""
  seconds : ∀ seconds, item.trigger.trigger_type = .elapsed seconds → 0 ≤ seconds

theorem ScenarioItem.fromDict_parsed (value : Json) :
    Yields (ScenarioItem.fromDict value) ScenarioItem.Parsed := by
  unfold ScenarioItem.fromDict
  refine Yields.then fun _ => Yields.then fun _ => Yields.then fun _ => ?_
  refine Yields.bind (requiredString_yields value "summary") fun summary hsummary => ?_
  refine Yields.then fun _ => Yields.then fun _ => Yields.then fun _ => Yields.then fun _ => ?_
  refine Yields.then fun _ => Yields.then fun _ => Yields.then fun _ => Yields.then fun _ => ?_
  extract_lets join
  have hjoin : ∀ trigger : ScenarioTrigger,
      (∀ seconds, trigger.trigger_type = .elapsed seconds → 0 ≤ seconds) →
        Yields (join trigger) ScenarioItem.Parsed := by
    intro trigger hseconds
    refine Yields.then fun _ => Yields.then fun _ => Yields.then ?_
    rintro ⟨_⟩
    dsimp -zeta only
    extract_lets join'
    have hjoin' : ∀ objective_ids, Yields (join' objective_ids) ScenarioItem.Parsed := by
      intro objective_ids
      refine Yields.then fun _ => Yields.then fun _ => Yields.then fun _ => ?_
      refine Yields.then fun _ => Yields.then fun _ => Yields.then fun _ => ?_
      exact Yields.pure ⟨hsummary, hseconds⟩
    split
    · exact Yields.then hjoin'
    · exact Yields.then hjoin'
  split
  · exact Yields.bind (ScenarioTrigger.fromDict_seconds _) hjoin
  · exact Yields.bind (Yields.error _ _) hjoin

theorem Yields.mapM {α β : Type} {f : α → Except Exn β} {P : β → Prop} (h : ∀ a, Yields (f a) P)
    (as : List α) : Yields (as.mapM f) fun bs => ∀ b ∈ bs, P b := by
  induction as with
  | nil => exact Yields.pure fun _ hb => absurd hb List.not_mem_nil
  | cons a as ih =>
      rw [List.mapM_cons]
      refine Yields.bind (h a) fun b hb => Yields.bind ih fun bs hbs => Yields.pure ?_
      rintro b' hb'
      rcases List.mem_cons.mp hb' with rfl | hb'
      · exact hb
      · exact hbs b' hb'

/-- Every item of a parsed scenario is a parsed item. -/
theorem ScenarioDefinition.fromDict_parsed (value : Json) :
    Yields (ScenarioDefinition.fromDict value) fun definition =>
      ∀ item ∈ definition.items, item.Parsed := by
  unfold ScenarioDefinition.fromDict
  refine Yields.then fun _ => Yields.then fun _ => Yields.then fun _ => Yields.then fun _ => ?_
  refine Yields.then ?_
  rintro ⟨_⟩
  refine Yields.then ?_
  rintro ⟨_⟩
  dsimp -zeta only
  extract_lets rest
  -- The three continuations after the checks on the shape of the value, the innermost last.
  have hrest : ∀ participant_experience, Yields (rest participant_experience) fun definition =>
      ∀ item ∈ definition.items, item.Parsed := by
    intro participant_experience
    dsimp -zeta only [rest]
    extract_lets items
    have hitems : ∀ raw_items, Yields (items raw_items) fun definition =>
        ∀ item ∈ definition.items, item.Parsed := by
      intro raw_items
      dsimp -zeta only [items]
      extract_lets build
      have hbuild : ∀ u, Yields (build u) fun definition =>
          ∀ item ∈ definition.items, item.Parsed := by
        intro u
        refine Yields.bind (Yields.mapM ScenarioItem.fromDict_parsed raw_items) fun _ hitem => ?_
        refine Yields.then ?_
        rintro ⟨_⟩
        refine Yields.then ?_
        rintro ⟨_⟩
        refine Yields.then ?_
        rintro ⟨_⟩
        exact Yields.pure hitem
      split_ifs
      · exact Yields.then hbuild
      · exact hbuild ()
    split
    · exact Yields.then hitems
    · exact Yields.then hitems
  split
  · exact Yields.then hrest
  · exact Yields.then hrest

/-! ## A small scenario -/

/-- An item without handler: kind, delivery mode and trigger as given. -/
def sampleItem (item_id : String) (kind : ItemKind) (delivery : DeliveryMode)
    (trigger : TriggerType) (order : Int) (hid : identifierPattern.accepts item_id = true)
    (hkind : kind = .inject ∨ kind = .endMarker) : ScenarioItem where
  item_id := item_id
  kind := kind
  title := item_id
  summary := "Summary"
  phase := .control
  delivery := delivery
  visibility := .facilitator
  trigger := ⟨trigger, order⟩
  action_id := none
  objective_ids := []
  checkpoint_id := none
  participant_prompt := none
  item_id_valid := hid
  action_id_valid := fun _ h => nomatch h
  action_required := fun h _ => by rcases hkind with rfl | rfl <;> rcases h with h | h <;> cases h
  objective_ids_valid := fun _ h => nomatch h
  checkpoint_id_valid := fun _ h => nomatch h
  checkpoint_own := fun h => by rcases hkind with rfl | rfl <;> cases h

/-- The checkpoint `DP1`, due at the start. -/
def sampleCheckpoint : ScenarioItem where
  item_id := "DP1"
  kind := .checkpoint
  title := "DP1"
  summary := "Summary"
  phase := .control
  delivery := .facilitator
  visibility := .facilitator
  trigger := ⟨.elapsed 0, 0⟩
  action_id := none
  objective_ids := []
  checkpoint_id := some "DP1"
  participant_prompt := none
  item_id_valid := by decide
  action_id_valid := fun _ h => nomatch h
  action_required := fun h _ => by rcases h with h | h <;> cases h
  objective_ids_valid := fun _ h => nomatch h
  checkpoint_id_valid := by decide
  checkpoint_own := fun _ => rfl

theorem inject_or_end : ItemKind.inject = .inject ∨ ItemKind.inject = .endMarker := .inl rfl

theorem sample_version_accepted : schemaVersionPattern.accepts "1.0.0" = true := by decide

theorem sample_ids_accepted : identifierPattern.accepts "sample" = true ∧
    identifierPattern.accepts "sample" = true := by decide

theorem inject_id_accepted : identifierPattern.accepts "INJ-1" = true := by decide

/-- A checkpoint with a branch for either outcome, and an end item that is due together with an
inject. -/
def sampleScenario (endDelivery : DeliveryMode) : ScenarioDefinition where
  schema_version := "1.0.0"
  scenario_id := "sample"
  exercise_id := "sample"
  name := "Sample"
  items :=
    [sampleCheckpoint,
      sampleItem "PASS-1" .inject .automatic (.checkpoint "DP1" .pass) 0 (by decide) (by decide),
      sampleItem "MISS-1" .inject .automatic (.checkpoint "DP1" .miss) 1 (by decide) (by decide),
      sampleItem "END-1" .endMarker endDelivery (.elapsed 10) 0 (by decide) (by decide),
      sampleItem "INJ-1" .inject .automatic (.elapsed 10) 1 (by decide) (by decide)]
  participant_experience := []
  schema_version_valid := sample_version_accepted
  ids_valid := sample_ids_accepted
  items_nonempty := List.cons_ne_nil _ _
  ids_unique := show ["DP1", "PASS-1", "MISS-1", "END-1", "INJ-1"].Nodup by decide
  checkpoints_known := fun item hitem id outcome htrigger => by
    refine ⟨sampleCheckpoint, List.mem_cons_self, rfl, ?_⟩
    simp only [List.mem_cons, List.not_mem_nil, or_false] at hitem
    rcases hitem with rfl | rfl | rfl | rfl | rfl <;> cases htrigger <;> rfl

/-- The JSON object of an item of the small scenario. -/
def sampleJson (item_id kind delivery : String) (checkpoint_id : Json)
    (trigger : List (String × Json)) : Json :=
  .obj [("id", .str item_id), ("kind", .str kind), ("title", .str item_id),
    ("summary", .str "Summary"), ("phase", .str "control"), ("delivery", .str delivery),
    ("visibility", .str "facilitator"), ("trigger", .obj trigger),
    ("checkpoint_id", checkpoint_id)]

/-- The JSON object of the small scenario. -/
def sampleValue : Json :=
  .obj [("schema_version", .str "1.0.0"), ("scenario_id", .str "sample"),
    ("exercise_id", .str "sample"), ("name", .str "Sample"),
    ("items", .arr
      [sampleJson "DP1" "checkpoint" "facilitator" (.str "DP1")
        [("type", .str "elapsed"), ("seconds", .int 0)],
      sampleJson "PASS-1" "inject" "automatic" .null [("type", .str "checkpoint"),
        ("checkpoint_id", .str "DP1"), ("outcome", .str "pass")],
      sampleJson "MISS-1" "inject" "automatic" .null [("type", .str "checkpoint"),
        ("checkpoint_id", .str "DP1"), ("outcome", .str "miss"), ("order", .int 1)],
      sampleJson "END-1" "end" "automatic" .null [("type", .str "elapsed"), ("seconds", .int 10)],
      sampleJson "INJ-1" "inject" "automatic" .null [("type", .str "elapsed"),
        ("seconds", .int 10), ("order", .int 1)]])]

/-- The parser accepts the small scenario. -/
theorem fromDict_sampleValue :
    ScenarioDefinition.fromDict sampleValue = .ok (sampleScenario .automatic) := by
  decide

end NetStrike.Orchestrator
