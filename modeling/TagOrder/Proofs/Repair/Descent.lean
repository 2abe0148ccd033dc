import Mathlib.Data.Prod.Lex
import TagOrder.Proofs.Repair.Turn

/-!
# Why passes come to an end

Passes over a tag with spread binds may put pairs out of order that were in order, so disorder is no
measure of them. `RankTable.unrest` is one, made of three counts of which the first that changes
goes down. Pairs of one kind, two named properties or two attributes that set no value, only ever
come in order. Once there is nothing left to do among them, the attributes that set values keep
their order, and with it the ranks of the spread binds. Then either a cluster goes in front of an
attribute that sets no value, which was overdue, or such an attribute goes in front of others that
set values, none of which is overdue to come back in front of it (`Policy.Turn.unrest_lt`).
-/

namespace TagOrder

/-- An attribute with those in front of it and behind it that set a value, if it sets one itself. -/
structure Seat where
  node : Attribute
  before : List Attribute
  behind : List Attribute

/-- The attributes that set a value. -/
def values (attributes : List Attribute) : List Attribute := attributes.filter Attribute.setsValue

/-- The seats of attributes with some values in front of them and some behind them. -/
def seats (before behind : List Attribute) : List Attribute -> List Seat
  | [] => []
  | node :: rest =>
    if node.setsValue then
      ⟨node, before, values rest ++ behind⟩ :: seats (before ++ [node]) behind rest
    else ⟨node, [], []⟩ :: seats before behind rest

section Seats

variable {before behind attributes : List Attribute}

@[simp] theorem values_append (front back : List Attribute) :
    values (front ++ back) = values front ++ values back := List.filter_append _ _

theorem values_eq_nil_iff :
    values attributes = [] ↔ ∀ node ∈ attributes, node.setsValue = false := by
  simp [values]

theorem seats_append (before behind front back : List Attribute) :
    seats before behind (front ++ back) =
      seats before (values back ++ behind) front ++ seats (before ++ values front) behind back := by
  induction front generalizing before with
  | nil => simp [seats, values]
  | cons node rest ih =>
    rw [List.cons_append, seats, seats]
    cases sets : node.setsValue with
    | true =>
      have head : values (node :: rest) = node :: values rest := by simp [values, sets]
      simp [ih, head]
    | false =>
      have head : values (node :: rest) = values rest := by simp [values, sets]
      simp [ih, head]

/-- Attributes that set no value have the same seats everywhere. -/
theorem seats_of_values_eq_nil (none : values attributes = []) :
    seats before behind attributes = attributes.map fun node => ⟨node, [], []⟩ := by
  induction attributes with
  | nil => rfl
  | cons node rest ih =>
    obtain ⟨plain, others⟩ := List.forall_mem_cons.mp (values_eq_nil_iff.mp none)
    rw [seats, plain, ih (values_eq_nil_iff.mpr others)]
    rfl

/-- The rank in front of others is seen at those that set a value. -/
theorem rankFacing_values (table : RankTable) (node : Attribute) (behind : List Attribute) :
    table.rankFacing node (values behind) = table.rankFacing node behind := by
  have same : ∀ next : Attribute,
      decide (next.setsValue = true ∧ (next.setsValue && !next.isSpread) = true) =
        (next.setsValue && !next.isSpread) := by
    intro next
    cases next.setsValue <;> simp
  simp only [RankTable.rankFacing, values, List.find?_filter, same]

theorem exists_of_mem_seats {seat : Seat} (member : seat ∈ seats before behind attributes) :
    ∃ front back, attributes = front ++ seat.node :: back ∧
      (seat.node.setsValue = true →
        seat.before = before ++ values front ∧ seat.behind = values back ++ behind) := by
  induction attributes generalizing before with
  | nil => cases member
  | cons node rest ih =>
    rw [seats] at member
    cases sets : node.setsValue with
    | true =>
      rw [sets, if_pos rfl] at member
      rcases List.mem_cons.mp member with rfl | later
      · exact ⟨[], rest, rfl, fun _ => ⟨by simp [values], rfl⟩⟩
      · obtain ⟨front, back, rfl, seated⟩ := ih later
        refine ⟨node :: front, back, rfl, fun seatSets => ?_⟩
        obtain ⟨ahead, after⟩ := seated seatSets
        exact ⟨by simp [ahead, values, sets], after⟩
    | false =>
      rw [sets, if_neg (by decide)] at member
      rcases List.mem_cons.mp member with rfl | later
      · refine ⟨[], rest, rfl, fun seatSets => ?_⟩
        rw [sets] at seatSets
        cases seatSets
      · obtain ⟨front, back, rfl, seated⟩ := ih later
        refine ⟨node :: front, back, rfl, fun seatSets => ?_⟩
        obtain ⟨ahead, after⟩ := seated seatSets
        exact ⟨by simp [ahead, values, sets], after⟩

theorem node_mem_of_mem_seats {seat : Seat} (member : seat ∈ seats before behind attributes) :
    seat.node ∈ attributes := by
  obtain ⟨front, back, whole, -⟩ := exists_of_mem_seats member
  rw [whole]
  exact List.mem_append_right _ List.mem_cons_self

theorem mem_seats {node : Attribute} {front back : List Attribute}
    (whole : attributes = front ++ node :: back) (sets : node.setsValue = true) :
    ⟨node, before ++ values front, values back ++ behind⟩ ∈ seats before behind attributes := by
  rw [whole, seats_append, seats, sets]
  simp

/-- Where one of two neighbouring parts of a list holds no attribute that sets a value, the parts
can change places and every attribute keeps its seat. -/
theorem exists_seats_exchange (front back : List Attribute) {passed movers : List Attribute}
    (apart : values passed = [] ∨ values movers = []) :
    ∃ lead trail,
      let passedSeats := seats (values front) (values movers ++ values back) passed
      let moverSeats := seats (values front ++ values passed) (values back) movers
      seats [] [] (front ++ (passed ++ movers) ++ back) =
          lead ++ (passedSeats ++ moverSeats) ++ trail ∧
        seats [] [] (front ++ (movers ++ passed) ++ back) =
          lead ++ (moverSeats ++ passedSeats) ++ trail := by
  refine ⟨seats [] (values passed ++ values movers ++ values back) front,
    seats (values front ++ values passed ++ values movers) [] back, ?_⟩
  rcases apart with none | none
  · simp [seats_append, none, seats_of_values_eq_nil none]
  · simp [seats_append, none, seats_of_values_eq_nil none]

end Seats

/-- Whether an attribute that sets no value stands in front of one that has to precede it, while
everything that stands in front of the latter and sets a named property may precede it. -/
def RankTable.overdue (table : RankTable) (mayFollow : Ranked -> Ranked -> Bool)
    (left right : Seat) : Bool :=
  !left.node.setsValue && right.node.setsValue && (table.rankAt (0, left.node)).any fun item =>
    (table.rankFacing right.node right.behind).any (fun rank =>
      !mayFollow item ⟨0, right.node, rank⟩) &&
    (standing table (right.before.filter fun node => !node.isSpread)).all fun earlier =>
      mayFollow earlier item

/-- Whether two attributes of one kind are in order: two that set a named property, or two that set
no value. -/
def RankTable.inOrder (table : RankTable) (mayFollow : Ranked -> Ranked -> Bool)
    (left right : Attribute) : Bool :=
  left.setsValue != right.setsValue || left.isSpread || right.isSpread ||
    table.agrees mayFollow left right

/-- What a pass lowers: first the pairs of one kind that are out of order, then the pairs that are
overdue, and then the pairs in which an attribute that sets no value is behind one that does. -/
def RankTable.unrest (table : RankTable) (mayFollow : Ranked -> Ranked -> Bool)
    (attributes : List Attribute) : Nat ×ₗ Nat ×ₗ Nat :=
  toLex (disorder (table.inOrder mayFollow) attributes,
    toLex (disorder (fun left right => !table.overdue mayFollow left right)
        (seats [] [] attributes),
      disorder (fun left right => !left.setsValue || right.setsValue) attributes))

/-- The attributes with the two parts of a block in exchanged order. -/
def Block.exchange (block : Block) (attributes : List Attribute) : List Attribute :=
  attributes.take block.first ++ (block.movers attributes ++ block.passed attributes) ++
    attributes.drop (block.last + 1)

namespace Policy.Turn

variable {policy : Policy} {attributes : List Attribute} {block : Block} {inversion : Inversion}

/-- An attribute that sets no value passes others that set one: none of these is overdue to
precede it. -/
theorem not_overdue (turn : policy.Turn attributes block inversion)
    (decides : policy.Decides (ranked policy.table attributes))
    (plain : inversion.node.node.setsValue = false)
    (sets : ∀ item ∈ block.passed attributes, item.setsValue = true)
    {before : List Attribute} {seat mover : Seat}
    (passes : seat ∈ seats before
      (values (block.movers attributes) ++ values (attributes.drop (block.last + 1)))
      (block.passed attributes))
    (moves : mover.node = inversion.node.node) :
    policy.table.overdue (policy.mayFollow (ranked policy.table attributes)) mover seat =
      false := by
  obtain ⟨first, -, -, passesSome, ahead, -⟩ := turn.bounds
  have nodePlain : inversion.node.node.isSpread = false := by
    refine Bool.eq_false_iff.mpr fun spread => ?_
    rw [setsValue_of_isSpread spread] at plain
    cases plain
  have atFirst : attributes[block.first]? = some inversion.previous.node := by
    rw [first]
    exact getElem?_of_mem_ranked turn.previous
  have cons := Block.passed_eq_cons turn.fits atFirst
  obtain ⟨lead, trail, whole, seated⟩ := exists_of_mem_seats passes
  have seatPasses := node_mem_of_mem_seats passes
  obtain ⟨seatBefore, seatBehind⟩ := seated (sets seat.node seatPasses)
  refine Bool.eq_false_iff.mpr fun overdue => ?_
  simp only [RankTable.overdue, moves, rankAt_zero_of_mem_ranked turn.node nodePlain,
    Option.any_some, Bool.and_eq_true, List.all_eq_true] at overdue
  obtain ⟨-, held, unblocked⟩ := overdue
  cases lead with
  | nil =>
    -- The attribute that is passed first may follow the one that passes it.
    obtain ⟨same, tail⟩ := List.cons.inj (cons.symm.trans whole)
    have behind : attributes.drop (inversion.previous.place + 1) =
        trail ++ (block.movers attributes ++ attributes.drop (block.last + 1)) := by
      have length : (attributes.take block.first ++ [inversion.previous.node]).length =
          inversion.previous.place + 1 := by
        have inside := (List.getElem?_eq_some_iff.mp atFirst).1
        simp
        omega
      have split : attributes = (attributes.take block.first ++ [inversion.previous.node]) ++
          (trail ++ (block.movers attributes ++ attributes.drop (block.last + 1))) := by
        conv => lhs; rw [Block.eq_append turn.fits, cons, tail]
        simp
      conv => lhs; rw [split]
      exact List.drop_left' length
    have rank := rankFacing_of_mem_ranked turn.previous
    rw [behind, ← rankFacing_values, values_append, values_append, ← seatBehind, same] at rank
    rw [rank, Option.any_some] at held
    have converse := mayFollow_of_wrong decides turn.previous turn.node (by omega) turn.wrong
    rw [← same, Bool.not_eq_true'] at held
    exact Bool.eq_false_iff.mp held converse
  | cons head lead =>
    -- What may not precede the one that passes stands in front of the others that are passed.
    obtain ⟨rfl, tail⟩ := List.cons.inj (cons.symm.trans whole)
    have previousSets := sets _ turn.previous_mem_passed
    have previousPlain : inversion.previous.node.isSpread = false := by
      -- A ranked spread bind has no neighbour that sets a value.
      refine Bool.eq_false_iff.mpr fun spread => ?_
      obtain ⟨next, more, follows⟩ : ∃ next more, lead ++ seat.node :: trail = next :: more :=
        List.exists_cons_of_ne_nil (by simp)
      have second : (block.passed attributes)[1]? = some next := by
        rw [whole, List.cons_append, follows]
        rfl
      have nextSets := sets next (List.mem_of_getElem? second)
      rw [Block.passed, List.getElem?_drop, List.getElem?_take] at second
      split at second
      · rw [first] at second
        rw [not_setsValue_behind_spread turn.previous spread second] at nextSets
        cases nextSets
      · cases second
    refine absurd (unblocked ⟨0, inversion.previous.node, inversion.previous.rank⟩ ?_) ?_
    · refine List.mem_filterMap.mpr ⟨inversion.previous.node, ?_,
        rankAt_zero_of_mem_ranked turn.previous previousPlain⟩
      simp [seatBefore, values, previousSets, previousPlain]
    · exact Bool.eq_false_iff.mp turn.wrong

/-- Attributes that set values pass others that set none: one of the former is overdue to precede
one of the latter. -/
theorem exists_overdue (turn : policy.Turn attributes block inversion)
    (decides : policy.Decides (ranked policy.table attributes))
    (sets : inversion.node.node.setsValue = true)
    (plain : ∀ item ∈ block.passed attributes, item.setsValue = false)
    {before behind : List Attribute} :
    ∃ seat ∈ seats before behind (block.passed attributes),
      ∃ mover ∈ seats (values (attributes.take block.first) ++ values (block.passed attributes))
          (values (attributes.drop (block.last + 1))) (block.movers attributes),
        policy.table.overdue (policy.mayFollow (ranked policy.table attributes)) seat mover =
          true := by
  obtain ⟨front, back, whole, ahead, after⟩ := turn.movers_eq
  have previousPlain := plain _ turn.previous_mem_passed
  refine ⟨⟨inversion.previous.node, [], []⟩, ?_, _, mem_seats whole sets, ?_⟩
  · rw [seats_of_values_eq_nil (values_eq_nil_iff.mpr plain)]
    exact List.mem_map_of_mem turn.previous_mem_passed
  · have rank := rankFacing_of_mem_ranked turn.node
    rw [← after, ← rankFacing_values, values_append] at rank
    have wrong := turn.wrong
    have previousNoSpread : inversion.previous.node.isSpread = false := by
      refine Bool.eq_false_iff.mpr fun spread => ?_
      rw [setsValue_of_isSpread spread] at previousPlain
      cases previousPlain
    simp only [RankTable.overdue, previousPlain, sets, rank, Option.any_some,
      rankAt_zero_of_mem_ranked turn.previous previousNoSpread, Bool.not_false, Bool.true_and,
      Bool.and_eq_true, List.all_eq_true]
    refine ⟨by rw [Bool.not_eq_true']; exact turn.wrong, fun earlier member => ?_⟩
    obtain ⟨node, inBefore, stands⟩ := List.mem_filterMap.mp member
    obtain ⟨inBefore, noSpread⟩ := List.mem_filter.mp inBefore
    obtain ⟨rank, given, rfl⟩ := Option.map_eq_some_iff.mp stands
    rw [← values_append, ← values_append, ahead] at inBefore
    obtain ⟨inFront, nodeSets⟩ := List.mem_filter.mp inBefore
    obtain ⟨place, bound, atPlace⟩ := List.mem_take_iff_getElem.mp inFront
    have item : ⟨place, node, rank⟩ ∈ ranked policy.table attributes :=
      mem_ranked (List.getElem?_eq_some_iff.mpr ⟨_, atPlace⟩) (by simpa using noSpread) given
    rcases Nat.lt_trichotomy place inversion.previous.place with early | same | late
    · exact turn.early ⟨place, node, rank⟩ item early
    · have stands := getElem?_of_mem_ranked turn.previous
      rw [← same, getElem?_of_mem_ranked item] at stands
      rw [← Option.some.inj stands, nodeSets] at previousPlain
      cases previousPlain
    · have blocked := (turn.blocked _ item late (by dsimp only; omega)).1
      have follows := mayFollow_of_wrong decides turn.previous item late blocked
      exact follows

/-- A pass lowers the unrest of a tag on whose ranked attributes the policy decides. -/
theorem unrest_lt (turn : policy.Turn attributes block inversion)
    (decides : policy.Decides (ranked policy.table attributes)) :
    policy.table.unrest (policy.mayFollow (ranked policy.table attributes))
        (block.exchange attributes) <
      policy.table.unrest (policy.mayFollow (ranked policy.table attributes)) attributes := by
  let mayFollow := policy.mayFollow (ranked policy.table attributes)
  let front := attributes.take block.first
  let passed := block.passed attributes
  let movers := block.movers attributes
  let back := attributes.drop (block.last + 1)
  suffices lower : policy.table.unrest mayFollow (front ++ (movers ++ passed) ++ back) <
      policy.table.unrest mayFollow (front ++ (passed ++ movers) ++ back) by
    conv at lower => rhs; rw [← Block.eq_append turn.fits]
    exact lower
  have inOrder : ∀ mover ∈ movers, ∀ item ∈ passed,
      policy.table.inOrder mayFollow mover item = true := by
    intro mover moves item passes
    unfold RankTable.inOrder
    by_cases kind : item.setsValue = mover.setsValue
    · obtain ⟨-, -, -, agrees⟩ := turn.straightens decides passes moves kind
      rw [agrees, Bool.or_true]
    · simp [Ne.symm kind]
  unfold RankTable.unrest
  rw [Prod.Lex.toLex_lt_toLex, Prod.Lex.toLex_lt_toLex]
  by_cases clash : ∃ item ∈ passed, ∃ mover ∈ movers, item.setsValue = mover.setsValue
  · -- A pair of one kind comes in order.
    obtain ⟨item, passes, mover, moves, kind⟩ := clash
    obtain ⟨itemPlain, moverPlain, wrong, -⟩ := turn.straightens decides passes moves kind
    refine .inl (disorder_rotate_lt inOrder passes moves ?_ front back)
    simp [RankTable.inOrder, kind, itemPlain, moverPlain, mayFollow, wrong]
  · have apart : ∀ item ∈ passed, ∀ mover ∈ movers, item.setsValue ≠ mover.setsValue :=
      fun item passes mover moves kind => clash ⟨item, passes, mover, moves, kind⟩
    have previousPasses := turn.previous_mem_passed
    have nodeMoves := turn.node_mem_movers
    refine .inr ⟨disorder_rotate_eq inOrder (fun item passes mover moves => ?_) front back, ?_⟩
    · simp [RankTable.inOrder, apart item passes mover moves]
    · cases sets : inversion.node.node.setsValue with
      | true =>
        -- The cluster goes in front of attributes that set no value.
        have plain : ∀ item ∈ passed, item.setsValue = false := fun item passes =>
          Bool.eq_false_iff.mpr fun both => apart item passes _ nodeMoves (both.trans sets.symm)
        have moverSets : ∀ mover ∈ movers, mover.setsValue = true := fun mover moves =>
          Bool.eq_true_of_not_eq_false fun neither =>
            apart _ previousPasses mover moves ((plain _ previousPasses).trans neither.symm)
        obtain ⟨lead, trail, before, after⟩ := exists_seats_exchange front back
          (.inl (values_eq_nil_iff.mpr plain) : values passed = [] ∨ values movers = [])
        obtain ⟨seat, passes, mover, moves, overdue⟩ := turn.exists_overdue decides sets plain
        rw [before, after]
        refine .inl (disorder_rotate_lt (fun other otherMoves _ _ => ?_) passes moves ?_ lead trail)
        · simp [RankTable.overdue, moverSets other.node (node_mem_of_mem_seats otherMoves)]
        · simp [mayFollow, overdue]
      | false =>
        -- The attribute goes in front of attributes that set values.
        have passedSet : ∀ item ∈ passed, item.setsValue = true := fun item passes =>
          Bool.eq_true_of_not_eq_false fun neither =>
            apart item passes _ nodeMoves (neither.trans sets.symm)
        have plain : ∀ mover ∈ movers, mover.setsValue = false := fun mover moves =>
          Bool.eq_false_iff.mpr fun both =>
            apart _ previousPasses mover moves ((passedSet _ previousPasses).trans both.symm)
        obtain ⟨lead, trail, before, after⟩ := exists_seats_exchange front back
          (.inr (values_eq_nil_iff.mpr plain) : values passed = [] ∨ values movers = [])
        rw [before, after]
        refine .inr ⟨disorder_rotate_eq (fun mover moves seat passes => ?_)
          (fun seat passes mover moves => ?_) lead trail,
          disorder_rotate_lt (fun mover moves item _ => ?_) previousPasses nodeMoves ?_ front back⟩
        · have alone := turn.eq_node_of_mem_movers sets (node_mem_of_mem_seats moves)
          simp [mayFollow, turn.not_overdue decides sets passedSet passes alone]
        · simp [RankTable.overdue, passedSet seat.node (node_mem_of_mem_seats passes)]
        · simp [plain mover moves]
        · simp [passedSet _ previousPasses, sets]

end Policy.Turn

end TagOrder
