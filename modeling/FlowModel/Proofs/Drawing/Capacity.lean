import FlowModel.Proofs.Drawing.Cursors
import FlowModel.Proofs.Drawing.ValidationPlan

/-!
# What a drawing uses up

A drawing takes ids from its supply and places from its canvas, and it breaks off at the first thing
that is not left. In what order it asks for them does not depend on what it gets (`Draft.Asks`). A
drawing that moves on by a hundred units for each id is never short of ids: the canvas is used up
first (`Demand.Affords.firstUnmet?_ne_id`).

So validation microflows are drawn up to a number of checked attributes that depends on the width of
the canvas alone (`validation_capacity`).
-/

namespace FlowModel

open Draft

/-! ## Demands -/

/-- The ids and the places that are left to a drawing. -/
structure Stock where
  supply : NodeSupply
  layout : Layout
deriving DecidableEq, Repr, Inhabited

/-- The stock of an empty draft. -/
def Stock.initial : Stock := ⟨.initial, .initial⟩

/-- What is left to a draft. -/
def Draft.stock (draft : Draft) : Stock := ⟨draft.supply, draft.layout⟩

/-- What a drawing asks for: the next id, or a place on the canvas. -/
inductive Demand where
  | id
  | place (call : Layout.Call)
deriving DecidableEq, Repr, Inhabited

namespace Demand

/-- What is left when a demand is met, unless it cannot be met. -/
def meet? (stock : Stock) : Demand → Option Stock
  | .id => (stock.supply.take? .merge).map fun taken => { stock with supply := taken.2 }
  | .place (.advance dx dy) =>
    (stock.layout.advance? dx dy).map fun moved => { stock with layout := moved.2 }
  | .place .parameter => stock.layout.parameter?.map fun moved => { stock with layout := moved.2 }

/-- What is left when demands are met one after another, unless one of them cannot be met. -/
def meetAll? (stock : Stock) (demands : List Demand) : Option Stock := demands.foldlM meet? stock

/-- The first demand that cannot be met, if not all are met. -/
def firstUnmet? (stock : Stock) : List Demand → Option Demand
  | [] => none
  | demand :: later =>
    match demand.meet? stock with
    | some left => firstUnmet? left later
    | none => some demand

variable {stock left : Stock} {demand : Demand} {demands later : List Demand}

/-- Meeting a single demand is meeting it, with nothing left to meet. -/
theorem meetAll?_singleton (stock : Stock) (demand : Demand) :
    meetAll? stock [demand] = demand.meet? stock :=
  Option.bind_fun_some _

/-- All demands are met exactly if no first one remains unmet. Demands behind an unmet one are not
asked, so they cannot be met out of turn. -/
theorem firstUnmet?_eq_none_iff :
    firstUnmet? stock demands = none ↔ (meetAll? stock demands).isSome = true := by
  induction demands generalizing stock with
  | nil => exact iff_of_true rfl rfl
  | cons demand later inductionHypothesis =>
    rw [firstUnmet?, meetAll?, List.foldlM_cons]
    cases met : demand.meet? stock with
    | none => exact iff_of_false nofun nofun
    | some left => exact inductionHypothesis

end Demand

/-! ## What steps of a draft ask for -/

namespace Draft

/-- A step of a draft asks for ids and places in a fixed order, as long as it goes on. -/
inductive Asks : {α : Type} → Drafting α → List Demand → Prop where
  | value {α : Type} (result : α) : Asks (pure result) []
  | create (kind : NodeKind) : Asks (create kind) [.id]
  | addParameter (name : String) (type : DataType) :
    Asks (addParameter name type) [.id, .place .parameter]
  | place (node : Node) (dx dy : Int) (from? : Option (NodeId × Link)) :
    Asks (place node dx dy from?) [.place (.advance dx dy)]
  | connect (origin destination : NodeId) (link : Link) : Asks (connect origin destination link) []
  | andThen {α β : Type} {step : Drafting α} {next : α → Drafting β} {first later : List Demand}
    (asksFirst : Asks step first) (asksLater : ∀ result, Asks (next result) later) :
    Asks (step >>= next) (first ++ later)

/-- Creating a node takes an id and nothing else, of whatever kind the node is. -/
theorem stock_create (kind : NodeKind) (draft : Draft) :
    ((create kind).run draft).map (fun reached => reached.2.stock) =
      Demand.id.meet? draft.stock := by
  by_cases left : draft.supply.next < greatestNodeId <;>
    simp [create, Demand.meet?, stock, NodeSupply.take?, left]

/-- A parameter takes an id and then a place on its own row. It is given no place if there is no id
left. -/
theorem stock_addParameter (name : String) (type : DataType) (draft : Draft) :
    ((addParameter name type).run draft).map (fun reached => reached.2.stock) =
      Demand.meetAll? draft.stock [.id, .place .parameter] := by
  rw [addParameter, StateT.run_bind, Demand.meetAll?, List.foldlM_cons,
    ← stock_create (.parameter name type)]
  cases (create (.parameter name type)).run draft with
  | none => rfl
  | some created =>
    cases moved : created.2.layout.parameter? <;> simp [push, Demand.meet?, stock, moved]

/-- Placing a node takes a place, and no id: that was taken when the node was created. The flow to
it takes nothing. -/
theorem stock_place (node : Node) (dx dy : Int) (from? : Option (NodeId × Link)) (draft : Draft) :
    ((place node dx dy from?).run draft).map (fun reached => reached.2.stock) =
      (Demand.place (.advance dx dy)).meet? draft.stock := by
  cases moved : draft.layout.advance? dx dy <;> cases from? <;>
    simp [place, push, connect, Demand.meet?, stock, moved]

/-- What a drawing leaves in the stock is what its demands leave, and both break off together. The
induction is on how the drawing is composed, since the result of one step decides which is the next,
but not what it asks for. -/
theorem Asks.run {α : Type} {step : Drafting α} {demands : List Demand} (asks : Asks step demands) :
    ∀ draft : Draft, (step.run draft).map (fun reached => reached.2.stock) =
      Demand.meetAll? draft.stock demands := by
  induction asks with
  | value result => exact fun draft => rfl
  | create kind =>
    exact fun draft => (stock_create kind draft).trans (Demand.meetAll?_singleton _ _).symm
  | addParameter name type => exact stock_addParameter name type
  | place node dx dy from? =>
    exact fun draft =>
      (stock_place node dx dy from? draft).trans (Demand.meetAll?_singleton _ _).symm
  | connect origin destination link => exact fun draft => rfl
  | @andThen α β step next first later _ _ metFirst metLater =>
    intro draft
    rw [Demand.meetAll?, List.foldlM_append, ← Demand.meetAll?, ← metFirst draft, StateT.run_bind]
    cases ran : step.run draft with
    | none => rfl
    | some reached => exact metLater reached.1 reached.2

/-- A drawing is done exactly if all that it asks for is there. -/
theorem Asks.exists_run_iff {α : Type} {step : Drafting α} {demands : List Demand}
    (asks : Asks step demands) (draft : Draft) :
    (∃ reached, step.run draft = some reached) ↔
      Demand.firstUnmet? draft.stock demands = none := by
  rw [Demand.firstUnmet?_eq_none_iff, ← asks.run draft, Option.isSome_map,
    Option.isSome_iff_exists]

/-- Appending a node asks for its id before its place. -/
theorem asks_append (kind : NodeKind) (dx dy : Int) (origin : NodeId) :
    Asks (append kind dx dy origin) [.id, .place (.advance dx dy)] :=
  .andThen (.create kind) fun node => .place node dx dy _

/-- What the diamond of a check asks for. -/
def diamondDemands : List Demand :=
  [.id, .place (.advance 200 0), .id, .place (.advance 0 100), .id, .place (.advance 200 0),
    .id, .place (.advance 0 (-100))]

/-- What the checks of a number of attributes ask for. -/
def chainDemands (count : Nat) : List Demand := (List.replicate count diamondDemands).flatten

/-- What the parameter, the start event and the variable in front of the checks ask for. -/
def headDemands : List Demand :=
  [.id, .place .parameter, .id, .place (.advance 0 0), .id, .place (.advance 100 0)]

/-- What the end event behind the checks asks for. -/
def endDemands : List Demand := [.id, .place (.advance 100 0)]

/-- What the validation microflow with a number of checked attributes asks for. -/
def validationDemands (count : Nat) : List Demand :=
  headDemands ++ (chainDemands count ++ endDemands)

/-- The diamond of a check asks for four ids and four places in turn; the flows that close it ask
for nothing. -/
theorem asks_appendDiamond (target : AttributeRef) (condition : String) (tail : NodeId)
    (settings : ValidationSettings) :
    Asks (appendDiamond target condition tail settings) diamondDemands := by
  have asks := Asks.andThen (asks_append (.split condition target.name) 200 0 tail) fun split =>
    .andThen (.create (.perform (.changeVariable settings.validVariable "false"))) fun node =>
    .andThen (.place node 0 100
      (some (split, (Link.between .bottom .top).labeled (caseLabel false)))) fun invalidate =>
    .andThen (asks_append (.perform (.validationFeedback target.entityName target
      (.english settings.requiredMessage))) 200 0 invalidate) fun feedback =>
    .andThen (.create .merge) fun node =>
    .andThen (.place node 0 (-100) (some (feedback, .between .top .bottom))) fun merge =>
    .andThen (.connect split merge (Link.straight.labeled (caseLabel true))) fun _ =>
    .value merge
  exact asks

/-- An attribute asks for the diamond of its check, or for nothing if it has none. -/
theorem asks_appendCheck (entity : String) (settings : ValidationSettings) (candidate : Attribute)
    (tail : NodeId) :
    Asks (appendCheck entity candidate tail settings)
      (if candidate.hasCheck then diamondDemands else []) := by
  have known := isSome_condition? entity candidate
  rw [appendCheck_eq, ← known]
  cases condition? entity candidate with
  | none => exact .value (CheckOutcome.skipped tail)
  | some condition =>
    have asks := Asks.andThen
      (asks_appendDiamond ⟨entity, candidate.name⟩ condition tail settings) fun merge =>
      .value (CheckOutcome.extended merge)
    rwa [List.append_nil] at asks

/-- An attribute without a check adds no demands. -/
theorem chainDemands_cons (candidate : Attribute) (later : List Attribute) :
    chainDemands (checkedAttributes (candidate :: later)).length =
      (if candidate.hasCheck then diamondDemands else []) ++
        chainDemands (checkedAttributes later).length := by
  rw [checkedAttributes_cons]
  by_cases checked : candidate.hasCheck = true
  · rw [if_pos checked, if_pos checked]
    rfl
  · rw [if_neg checked, if_neg checked, List.nil_append]

/-- The checks of all attributes ask for one diamond after another. How many there are is known from
the attributes, so the tail that is reached does not matter. -/
theorem asks_appendChecks (entity : String) (settings : ValidationSettings)
    (attributes : List Attribute) : ∀ tail : NodeId,
    Asks (appendChecks entity settings tail attributes)
      (chainDemands (checkedAttributes attributes).length) := by
  induction attributes with
  | nil => exact fun tail => .value (tail, [])
  | cons candidate later inductionHypothesis =>
    intro tail
    rw [chainDemands_cons]
    refine .andThen (asks_appendCheck entity settings candidate tail) fun outcome => ?_
    cases outcome with
    | extended tail => exact inductionHypothesis tail
    | skipped tail =>
      have asks := Asks.andThen (inductionHypothesis tail) fun reached =>
        .value (reached.1, ⟨candidate.name, candidate.type.name⟩ :: reached.2)
      rwa [List.append_nil] at asks

/-- What a validation microflow asks for depends on the number of checked attributes only. -/
theorem asks_drawValidation (entity : Entity) (moduleName : String)
    (settings : ValidationSettings) :
    Asks (drawValidation entity moduleName settings)
      (validationDemands (checkedAttributes entity.attributes).length) := by
  have asks := Asks.andThen (.addParameter entity.name
      (.object (QualifiedName.qualified moduleName entity.name))) fun _ =>
    .andThen (.create .startEvent) fun node =>
    .andThen (.place node 0 0 none) fun start =>
    .andThen (asks_append (.perform (.createVariable settings.validVariable .boolean "true")) 100 0
      start) fun valid =>
    .andThen (asks_appendChecks (QualifiedName.qualified moduleName entity.name) settings
      entity.attributes valid) fun reached =>
    .andThen (asks_append (.endEvent ("$" ++ settings.validVariable)) 100 0 reached.1) fun _ =>
    .value reached.2
  exact asks

end Draft

/-! ## Paying for ids with moves -/

/-- The demands for ids are covered by a credit: an id costs one unit, and each hundred units to the
right earn one. -/
inductive Demand.Affords : Nat → List Demand → Prop where
  | nil (credit : Nat) : Affords credit []
  | id {credit : Nat} {later : List Demand} (rest : Affords credit later) :
    Affords (credit + 1) (.id :: later)
  | advance {credit : Nat} {dx dy : Int} {later : List Demand} (steps : Nat)
    (earned : 100 * steps ≤ dx) (rest : Affords (credit + steps) later) :
    Affords credit (.place (.advance dx dy) :: later)
  | parameter {credit : Nat} {later : List Demand} (rest : Affords credit later) :
    Affords credit (.place .parameter :: later)

/-- The ids that were taken and those of a credit are paid for by the way that the cursor has come.
-/
structure Stock.Backs (stock : Stock) (credit : Nat) : Prop where
  onCanvas : stock.layout.cursor.x ≤ greatestCoordinate
  paid : 100 * ((stock.supply.next : Int) + credit) ≤ stock.layout.cursor.x + 300

namespace Stock.Backs

variable {stock left : Stock} {credit : Nat}

/-- Whoever has credit gets an id: the canvas is not wide enough to have paid for all ids. -/
theorem id (backs : stock.Backs (credit + 1)) :
    ∃ left, Demand.id.meet? stock = some left ∧ left.Backs credit := by
  obtain ⟨onCanvas, paid⟩ := backs
  have bounded : stock.layout.cursor.x ≤ 2147483647 := onCanvas
  have few : (stock.supply.next : Int) < 4294967295 := by omega
  have isLeft : stock.supply.next < greatestNodeId := Int.ofNat_lt.mp few
  have paidLeft : 100 * (((stock.supply.next + 1 : Nat) : Int) + credit) ≤
      stock.layout.cursor.x + 300 := by
    omega
  refine ⟨{ stock with supply := ⟨stock.supply.next + 1⟩ }, ?_, onCanvas, paidLeft⟩
  rw [Demand.meet?, NodeSupply.take?, if_pos isLeft, Option.map_some]

/-- A move to the right earns what it has gone. It may still fail, for want of a place. -/
theorem advance {dx dy : Int} {steps : Nat} (backs : stock.Backs credit) (earned : 100 * steps ≤ dx)
    (met : (Demand.place (.advance dx dy)).meet? stock = some left) :
    left.Backs (credit + steps) := by
  rw [Demand.meet?, Layout.advance?_eq, Option.map_map] at met
  obtain ⟨position, moved, rfl⟩ := Option.map_eq_some_iff.mp met
  obtain ⟨onCanvas, _, rfl⟩ := Position.moved?_eq_some_iff.mp moved
  have paid := backs.paid
  refine ⟨?_, ?_⟩
  · simpa using onCanvas.2
  · simp only [Function.comp_apply, Layout.cursor_movedTo]
    push_cast at paid ⊢
    omega

/-- A parameter neither earns nor costs credit in its place, because it stands on another row. -/
theorem parameter (backs : stock.Backs credit)
    (met : (Demand.place .parameter).meet? stock = some left) : left.Backs credit := by
  obtain ⟨_, given, rfl⟩ := Option.map_eq_some_iff.mp met
  obtain ⟨_, _, same⟩ := Option.bind_eq_some_iff.mp given
  obtain rfl := Option.some.inj same
  exact ⟨backs.onCanvas, backs.paid⟩

end Stock.Backs

/-- A drawing that can afford its ids does not break off for want of one. -/
theorem Demand.Affords.firstUnmet?_ne_id {credit : Nat} {demands : List Demand}
    (affords : Affords credit demands) :
    ∀ {stock : Stock}, stock.Backs credit → firstUnmet? stock demands ≠ some .id := by
  induction affords with
  | nil credit => exact fun _ => nofun
  | id rest inductionHypothesis =>
    intro stock backs
    obtain ⟨left, met, backsLeft⟩ := backs.id
    rw [firstUnmet?, met]
    exact inductionHypothesis backsLeft
  | advance steps earned rest inductionHypothesis =>
    intro stock backs
    rw [firstUnmet?]
    split
    · rename_i left moved
      exact inductionHypothesis (backs.advance earned moved)
    · exact nofun
  | parameter rest inductionHypothesis =>
    intro stock backs
    rw [firstUnmet?]
    split
    · rename_i left moved
      exact inductionHypothesis (backs.parameter moved)
    · exact nofun

namespace Draft

open Demand

/-- A diamond moves on by four hundred units for its four ids. One unit of credit is enough to begin
with. -/
theorem affords_diamond {credit : Nat} {later : List Demand} (rest : Affords (credit + 1) later) :
    Affords (credit + 1) (diamondDemands ++ later) :=
  .id <| .advance 2 (by decide) <| .id <| .advance 0 (by decide) <| .id <| .advance 2 (by decide) <|
    .id <| .advance 0 (by decide) rest

/-- Each diamond pays for its own ids, so any number of them can be afforded with one unit. -/
theorem affords_chain {credit : Nat} {later : List Demand} (rest : Affords (credit + 1) later)
    (count : Nat) : Affords (credit + 1) (chainDemands count ++ later) := by
  induction count with
  | zero => exact rest
  | succ count inductionHypothesis =>
    rw [chainDemands, List.replicate_succ, List.flatten_cons, List.append_assoc]
    exact affords_diamond inductionHypothesis

/-- Three units pay for the parameter, the start event and the variable; the rest of the drawing
earns what it takes. -/
theorem affords_validation (count : Nat) : Affords 3 (validationDemands count) :=
  .id <| .parameter <| .id <| .advance 0 (by decide) <| .id <| .advance 1 (by decide) <|
    affords_chain (.id <| .advance 1 (by decide) <| .nil 1) count

end Draft

/-- Before the first step nothing has been taken, and three units are granted in advance. -/
theorem Stock.backs_initial : Stock.initial.Backs 3 := ⟨by decide, by decide⟩

/-- The validation microflow of an entity is drawn exactly if at most 5368708 of its attributes have
a check, whatever the other attributes, the names and the settings are. Otherwise the canvas is used
up: of the ids and places that the drawing asks for, a place is the first that it does not get. -/
theorem validation_capacity (entity : Entity) (moduleName : String)
    (settings : ValidationSettings) :
    ((∃ drawn, validationMicroflow? entity moduleName settings = some drawn) ↔
      (checkedAttributes entity.attributes).length ≤ 5368708) ∧
    ∃ demands, Asks (drawValidation entity moduleName settings) demands ∧
      ((∃ drawn, validationMicroflow? entity moduleName settings = some drawn) ↔
        Demand.firstUnmet? .initial demands = none) ∧
      Demand.firstUnmet? .initial demands ≠ some .id := by
  have asks := asks_drawValidation entity moduleName settings
  refine ⟨?_, _, asks, ?_, (affords_validation _).firstUnmet?_ne_id Stock.backs_initial⟩
  · have reach : tailX entity.finalId + 100 =
        400 * ((checkedAttributes entity.attributes).length : Int) + 200 := by
      unfold tailX Entity.finalId
      push_cast
      omega
    simp only [Prod.exists, validationMicroflow?_eq_some, exists_and_left, exists_eq, and_true,
      reach]
    unfold greatestCoordinate
    omega
  · rw [← show (empty (settings.microflowName entity.name) .boolean).stock = .initial from rfl,
      ← asks.exists_run_iff]
    constructor
    · rintro ⟨drawn, known⟩
      obtain ⟨reached, ran, _⟩ := Option.bind_eq_some_iff.mp known
      exact ⟨reached, ran⟩
    · rintro ⟨reached, ran⟩
      exact ⟨_, Option.bind_eq_some_iff.mpr ⟨reached, ran, rfl⟩⟩

end FlowModel
