import Mathlib.Data.List.Chain
import TagOrder.Proofs.Repair.Verdict
import TagOrder.Proofs.Rotation.Coupling

/-!
# The fix of a single violation

A violation is reported against the last attribute accepted in front of it, and its fix looks no
further. So a tag with one violation need not come clean with its fix: the attribute that moves may
have to go before others that were accepted earlier, one that moves along with it may have to go
behind `previous`, and a spread bind may be ranked otherwise where it then stands. These are all the
ways (`clean_after_single_fix`). What is known of the tag is kept in `Policy.Lone`: without the one
misplaced attribute, every attribute may follow the one in front of it.
-/

namespace TagOrder

section Scan

variable {mayFollow : Ranked -> Ranked -> Bool}

theorem scanFrom_eq_nil_iff {previous : Ranked} {items : List Ranked} :
    scanFrom mayFollow previous items = [] ↔
      (previous :: items).IsChain fun left right => mayFollow left right = true := by
  induction items generalizing previous with
  | nil => simp [scanFrom]
  | cons current rest ih =>
    rw [scanFrom, List.isChain_cons_cons]
    split
    · rename_i follows
      rw [ih, and_iff_right follows]
    · rename_i wrong
      simp [wrong]

/-- Nothing is reported exactly when every item may follow the one right in front of it. -/
theorem scan_eq_nil_iff_isChain {items : List Ranked} :
    scan mayFollow items = [] ↔
      items.IsChain fun left right => mayFollow left right = true := by
  cases items with
  | nil => simp [scan]
  | cons first rest => exact scanFrom_eq_nil_iff

theorem exists_of_scanFrom_eq_singleton {previous : Ranked} {items : List Ranked}
    {inversion : Inversion} (reported : scanFrom mayFollow previous items = [inversion]) :
    ∃ lead rest, previous :: items = lead ++ inversion.previous :: inversion.node :: rest ∧
      (lead ++ inversion.previous :: rest).IsChain (fun left right =>
        mayFollow left right = true) ∧
      mayFollow inversion.previous inversion.node = false := by
  induction items generalizing previous with
  | nil => cases reported
  | cons current rest ih =>
    rw [scanFrom] at reported
    split at reported
    · rename_i follows
      obtain ⟨lead, behind, whole, accepted, wrong⟩ := ih reported
      refine ⟨previous :: lead, behind, by rw [whole, List.cons_append], ?_, wrong⟩
      refine accepted.cons fun head atHead => ?_
      have same : head = current := by
        cases lead with
        | nil =>
          obtain rfl := Option.some.inj atHead
          exact (List.cons.inj whole).1.symm
        | cons first lead =>
          obtain rfl := Option.some.inj atHead
          exact (List.cons.inj whole).1.symm
      rw [same, follows]
    · rename_i wrong
      obtain ⟨rfl, none⟩ := List.cons.inj reported
      exact ⟨[], rest, rfl, scanFrom_eq_nil_iff.mp none, Bool.eq_false_iff.mpr wrong⟩

/-- The one item that a scan reports stands right behind the one that it may not follow, and without
it every item may follow the one right in front of it. -/
theorem exists_of_scan_eq_singleton {items : List Ranked} {inversion : Inversion}
    (reported : scan mayFollow items = [inversion]) :
    ∃ lead rest, items = lead ++ inversion.previous :: inversion.node :: rest ∧
      (lead ++ inversion.previous :: rest).IsChain (fun left right =>
        mayFollow left right = true) ∧
      mayFollow inversion.previous inversion.node = false := by
  cases items with
  | nil => cases reported
  | cons first rest => exact exists_of_scanFrom_eq_singleton reported

/-- Only the ends of a part of a chain count for what stands beside it. -/
theorem isChain_trim {α : Type} {relation : α -> α -> Prop} {lead middle trail : List α}
    (leads : lead.IsChain relation) (trails : trail.IsChain relation) (some : middle ≠ []) :
    (lead ++ (middle ++ trail)).IsChain relation ↔
      (lead.getLast?.toList ++ (middle ++ trail.head?.toList)).IsChain relation := by
  have last : lead.getLast?.toList.getLast? = lead.getLast? := by
    cases lead.getLast? <;> rfl
  have head : trail.head?.toList.head? = trail.head? := by cases trail.head? <;> rfl
  have front : lead.getLast?.toList.IsChain relation := by cases lead.getLast? <;> simp
  have back : trail.head?.toList.IsChain relation := by cases trail.head? <;> simp
  rw [List.isChain_append, List.isChain_append, List.isChain_append, List.isChain_append, last,
    head, List.head?_append_of_ne_nil _ some, List.head?_append_of_ne_nil _ some]
  simp only [leads, trails, front, back]

end Scan

/-- What holds of any two items of an ascending list, the first in front of the second, holds of any
two by their places. -/
theorem of_pairwise_place {relation : Ranked -> Ranked -> Prop} {items : List Ranked}
    (ascending : items.Pairwise fun left right => left.place < right.place)
    (holds : items.Pairwise relation) {left right : Ranked} (leftMember : left ∈ items)
    (rightMember : right ∈ items) (ordered : left.place < right.place) : relation left right := by
  have both := ascending.and holds
  have symmetric : Std.Symm fun left right : Ranked =>
      (left.place < right.place → relation left right) ∧
        (right.place < left.place → relation right left) := ⟨fun _ _ related => related.symm⟩
  have related : items.Pairwise fun left right =>
      (left.place < right.place → relation left right) ∧
        (right.place < left.place → relation right left) := by
    refine both.imp ?_
    rintro left right ⟨before, holds⟩
    exact ⟨fun _ => holds, fun after => absurd before (Nat.lt_asymm after)⟩
  refine (related.forall leftMember rightMember ?_).1 ordered
  rintro rfl
  exact Nat.lt_irrefl _ ordered

/-- An ascending list falls in two at any place. -/
theorem exists_split_at_place {items : List Ranked}
    (ascending : items.Pairwise fun left right => left.place < right.place) (place : Nat) :
    ∃ front back, items = front ++ back ∧ (∀ item ∈ front, item.place ≤ place) ∧
      ∀ item ∈ back, place < item.place := by
  induction items with
  | nil => exact ⟨[], [], rfl, by simp, by simp⟩
  | cons item rest ih =>
    obtain ⟨behind, tail⟩ := List.pairwise_cons.mp ascending
    by_cases upTo : item.place ≤ place
    · obtain ⟨front, back, rfl, low, high⟩ := ih tail
      exact ⟨item :: front, back, rfl, List.forall_mem_cons.mpr ⟨upTo, low⟩, high⟩
    · refine ⟨[], item :: rest, rfl, by simp, List.forall_mem_cons.mpr ⟨by omega, ?_⟩⟩
      intro other member
      have after := behind other member
      omega

namespace Block

variable {block : Block} {attributes : List Attribute}

/-- A ranked attribute where a rotation puts it, with the rank that it had. -/
def carry (block : Block) (item : Ranked) : Ranked :=
  { item.unplaced with place := block.relocate item.place }

@[simp] theorem place_carry (block : Block) (item : Ranked) :
    (block.carry item).place = block.relocate item.place := rfl

/-- No two ranked attributes are put at the same place. -/
theorem nodup_map_carry (fits : block.Fits attributes) (table : RankTable) :
    ((ranked table attributes).map block.carry).Nodup := by
  refine List.pairwise_map.mpr ((pairwise_place_ranked table attributes).imp ?_)
  intro left right before same
  have back := congrArg (fun item : Ranked => block.reversed.relocate item.place) same
  simp only [place_carry, relocate_reversed fits] at back
  omega

/-- What is passed comes behind what moves over it. -/
theorem relocate_lt_of_crossed (fits : block.Fits attributes) {left right : Nat}
    (above : block.first ≤ left) (passed : left < block.moving) (moves : block.moving ≤ right)
    (below : right ≤ block.last) : block.relocate right < block.relocate left := by
  have passes := fits.passes
  rw [relocate, relocate, if_neg (by omega), if_neg (by omega), if_neg (by omega),
    if_pos passed]
  omega

/-- Every attribute of a rotated list stood in the list before. -/
theorem exists_origin {placed : Placed} (fits : block.Fits placed.tag.attributes) {place : Nat}
    {node : Attribute} (stands : (block.rotate placed).tag.attributes[place]? = some node) :
    ∃ origin old, block.relocate origin = place ∧ placed.tag.attributes[origin]? = some old ∧
      old.unplaced = node.unplaced := by
  have back := relocate_reversed (reversed_fits fits) place
  rw [reversed_reversed fits] at back
  have images := getElem?_rotate fits (block.reversed.relocate place)
  rw [back, stands] at images
  obtain ⟨old, atOrigin, same⟩ := Option.map_eq_some_iff.mp images.symm
  exact ⟨_, old, back, atOrigin, same⟩

/-- Whether the same attributes are ranked after a rotation as before, each with the same rank. -/
def KeepsRanks (block : Block) (table : RankTable) (placed : Placed) : Prop :=
  ((ranked table (block.rotate placed).tag.attributes).map Ranked.unplaced).Perm
    ((ranked table placed.tag.attributes).map block.carry)

/-- Without spread binds every rotation keeps the ranks. -/
theorem keepsRanks_of_spreadless {placed : Placed} (table : RankTable)
    (fits : block.Fits placed.tag.attributes) (spreadless : Spreadless placed.tag.attributes) :
    block.KeepsRanks table placed := by
  have distinct : ((ranked table (block.rotate placed).tag.attributes).map
      Ranked.unplaced).Nodup := by
    rw [← ranked_unplaced]
    exact nodup_ranked table _
  refine (List.perm_ext_iff_of_nodup distinct (nodup_map_carry fits table)).mpr fun image => ?_
  simp only [List.mem_map]
  constructor
  · rintro ⟨item, member, rfl⟩
    obtain ⟨origin, old, there, stands, same⟩ := exists_origin fits (getElem?_of_mem_ranked member)
    have plain := spreadless old (List.mem_of_getElem? stands)
    have itemPlain : item.node.isSpread = false := by
      rw [← Attribute.isSpread_unplaced, ← same, Attribute.isSpread_unplaced, plain]
    have given := rank_of_mem_ranked member itemPlain
    rw [← of_unplaced, ← same, of_unplaced] at given
    exact ⟨_, mem_ranked stands plain given, by simp [carry, Ranked.unplaced, there, same]⟩
  · rintro ⟨item, member, rfl⟩
    have stands := getElem?_of_mem_ranked member
    have plain := spreadless item.node (List.mem_of_getElem? stands)
    have images := getElem?_rotate fits item.place
    rw [stands] at images
    obtain ⟨node, there, same⟩ := Option.map_eq_some_iff.mp images
    have nodePlain : node.isSpread = false := by
      rw [← Attribute.isSpread_unplaced, same, Attribute.isSpread_unplaced, plain]
    have given := rank_of_mem_ranked member plain
    rw [← of_unplaced, ← same, of_unplaced] at given
    exact ⟨_, mem_ranked there nodePlain given, by simp [carry, Ranked.unplaced, same]⟩

/-- Whether two attributes of a rotated tag stood one right behind the other in a list before, with
the ranks that they have now. -/
def Neighbours (block : Block) (items : List Ranked) (left right : Ranked) : Prop :=
  [left.unplaced, right.unplaced] <:+: items.map block.carry

/-- The pairs of ranked attributes of a rotated tag that are not known to be in order when all but
`node` were accepted before: `node` behind what stands in front of the block, what moves along with
`node` in front of `previous`, and whatever is ranked otherwise than before. -/
inductive Unsettled (block : Block) (items : List Ranked) (inversion : Inversion)
    (left right : Ranked) : Prop
  | ahead (front : left.place < block.first) (moved : right.unplaced = block.carry inversion.node)
  | along (inside : block.first ≤ left.place) (other : left.unplaced ≠ block.carry inversion.node)
      (passed : right.unplaced = block.carry inversion.previous)
  | anew (changed : left.unplaced ∉ items.map block.carry ∨ right.unplaced ∉ items.map block.carry)

end Block

/-- A tag of which one attribute is reported, with a block for it. The one reported stands right
behind the one that it should precede; `others` stand behind it and move along with it. -/
structure Policy.Lone (policy : Policy) (attributes : List Attribute) (block : Block)
    (inversion : Inversion) (lead others trail : List Ranked) : Prop where
  whole : ranked policy.table attributes =
    lead ++ inversion.previous :: inversion.node :: (others ++ trail)
  accepted : (lead ++ inversion.previous :: (others ++ trail)).IsChain fun left right =>
    policy.mayFollow (ranked policy.table attributes) left right = true
  wrong : policy.mayFollow (ranked policy.table attributes) inversion.previous inversion.node =
    false
  chosen : blockAt? attributes inversion.node.place inversion.previous.place = some block
  along : ∀ item ∈ others, item.place ≤ block.last
  behind : ∀ item ∈ trail, block.last < item.place

/-- A check that reports one violation, which can be fixed, is of such a tag. -/
theorem Rule.exists_lone {rule : Rule} {tag : Tag} {violation : Violation}
    (distinct : tag.attributes.Nodup) (checked : rule.check tag = .ok [violation])
    (fixable : violation.fixable = true) :
    ∃ block inversion lead others trail,
      rule.options.policy.Lone tag.attributes block inversion lead others trail ∧
      violation.node = inversion.node.node ∧ violation.previous = inversion.previous.node ∧
      ∀ text, applyFix? violation text = some (block.rotate ⟨tag, text⟩) := by
  obtain ⟨inversion, reported, message, same⟩ :=
    exists_of_mem_check checked List.mem_cons_self
  have single : rule.options.policy.inversions tag.attributes = [inversion] := by
    obtain ⟨only, alone⟩ := List.length_eq_one_iff.mp (length_of_check_eq_ok checked).symm
    rw [alone, List.mem_singleton] at reported
    rw [alone, reported]
  obtain ⟨lead, rest, whole, accepted, wrong⟩ := exists_of_scan_eq_singleton single
  obtain ⟨node, previous⟩ := Policy.mem_ranked_of_mem_inversions reported
  have found : (block? tag.attributes violation.node violation.previous).isSome = true := by
    rw [same] at fixable ⊢
    exact fixable
  obtain ⟨block, found⟩ := Option.isSome_iff_exists.mp found
  have chosen := found
  rw [same, Inversion.violation, block?_eq_blockAt? distinct (getElem?_of_mem_ranked node)
    (getElem?_of_mem_ranked previous)] at chosen
  have ascending := pairwise_place_ranked rule.options.policy.table tag.attributes
  rw [whole] at ascending
  have behind := (List.pairwise_cons.mp (List.pairwise_cons.mp
    (List.pairwise_append.mp ascending).2.1).2).2
  obtain ⟨others, trail, rfl, low, high⟩ := exists_split_at_place behind block.last
  refine ⟨block, inversion, lead, others, trail, ⟨whole, accepted, wrong, chosen, low, high⟩,
    by rw [same]; rfl, by rw [same]; rfl,
    fun text => applyFix?_of_block? checked List.mem_cons_self found text⟩

namespace Policy.Lone

variable {policy : Policy} {attributes : List Attribute} {block : Block} {inversion : Inversion}
  {lead others trail : List Ranked}

theorem node_mem (lone : policy.Lone attributes block inversion lead others trail) :
    inversion.node ∈ ranked policy.table attributes := by
  simp [lone.whole]

theorem previous_mem (lone : policy.Lone attributes block inversion lead others trail) :
    inversion.previous ∈ ranked policy.table attributes := by
  simp [lone.whole]

theorem fits (lone : policy.Lone attributes block inversion lead others trail) :
    block.Fits attributes :=
  blockAt?_fits lone.chosen
    (List.getElem?_eq_some_iff.mp (getElem?_of_mem_ranked lone.node_mem)).1

theorem place_lt (lone : policy.Lone attributes block inversion lead others trail) :
    inversion.previous.place < inversion.node.place := by
  obtain ⟨first, -, -, passes, moves, -⟩ := bounds_of_blockAt? lone.chosen
  omega

theorem node_ne_previous (lone : policy.Lone attributes block inversion lead others trail) :
    inversion.node ≠ inversion.previous := by
  intro same
  have before := lone.place_lt
  rw [same] at before
  exact Nat.lt_irrefl _ before

theorem place_lt_of_mem_lead (lone : policy.Lone attributes block inversion lead others trail)
    {item : Ranked} (member : item ∈ lead) : item.place < inversion.previous.place := by
  have ascending := pairwise_place_ranked policy.table attributes
  rw [lone.whole] at ascending
  exact (List.pairwise_append.mp ascending).2.2 item member _ List.mem_cons_self

theorem place_lt_of_mem_rest (lone : policy.Lone attributes block inversion lead others trail)
    {item : Ranked} (member : item ∈ others ++ trail) : inversion.node.place < item.place := by
  have ascending := pairwise_place_ranked policy.table attributes
  rw [lone.whole] at ascending
  have behind := (List.pairwise_append.mp ascending).2.1
  exact (List.pairwise_cons.mp (List.pairwise_cons.mp behind).2).1 item member

/-- A ranked attribute stands in front of the two that the violation names, is one of them, or
stands behind them. -/
theorem mem_cases (lone : policy.Lone attributes block inversion lead others trail) {item : Ranked}
    (member : item ∈ ranked policy.table attributes) :
    item ∈ lead ∨ item = inversion.previous ∨ item = inversion.node ∨ item ∈ others ++ trail := by
  rw [lone.whole] at member
  simpa only [List.mem_append, List.mem_cons] using member

/-- Ranked attributes keep their order, but for `previous` and what moves over it. -/
theorem relocate_lt (lone : policy.Lone attributes block inversion lead others trail)
    {left right : Ranked} (member : left ∈ ranked policy.table attributes)
    (other : left ≠ inversion.previous) (ordered : left.place < right.place) :
    block.relocate left.place < block.relocate right.place := by
  obtain ⟨first, -, -, -, moves, -⟩ := bounds_of_blockAt? lone.chosen
  refine Block.relocate_lt_relocate lone.fits ordered ?_
  rintro ⟨above, below, -⟩
  rcases lone.mem_cases member with inLead | same | rfl | inRest
  · have ahead := lone.place_lt_of_mem_lead inLead
    omega
  · exact other same
  · omega
  · have behind := lone.place_lt_of_mem_rest inRest
    omega

/-- What moves comes in front of `previous`. -/
theorem relocate_lt_previous (lone : policy.Lone attributes block inversion lead others trail)
    {item : Ranked} (moves : inversion.node.place ≤ item.place) (below : item.place ≤ block.last) :
    block.relocate item.place < block.relocate inversion.previous.place := by
  obtain ⟨first, -, -, passes, starts, -⟩ := bounds_of_blockAt? lone.chosen
  exact Block.relocate_lt_of_crossed lone.fits (Nat.le_of_eq first) (first ▸ passes)
    (Nat.le_trans starts moves) below

/-- What stands behind the block stays behind `previous`. -/
theorem relocate_previous_lt (lone : policy.Lone attributes block inversion lead others trail)
    {item : Ranked} (member : item ∈ trail) :
    block.relocate inversion.previous.place < block.relocate item.place := by
  have behind := lone.behind item member
  have after := lone.place_lt_of_mem_rest (List.mem_append_right others member)
  have before := lone.place_lt
  exact Block.relocate_lt_relocate lone.fits (by omega) (by omega)

/-- What stands in front of the block stays there. -/
theorem relocate_lt_first (lone : policy.Lone attributes block inversion lead others trail)
    {item : Ranked} (member : item ∈ lead) : block.relocate item.place < block.first := by
  obtain ⟨first, -⟩ := bounds_of_blockAt? lone.chosen
  have early := lone.place_lt_of_mem_lead member
  rw [Block.relocate, if_pos (by omega)]
  omega

/-- What moves along stays in the block. -/
theorem first_le_relocate (lone : policy.Lone attributes block inversion lead others trail)
    {item : Ranked} (member : item ∈ others) : block.first ≤ block.relocate item.place := by
  obtain ⟨-, -, -, passes, moves, -⟩ := bounds_of_blockAt? lone.chosen
  have late := lone.place_lt_of_mem_rest (List.mem_append_left trail member)
  have within := lone.along item member
  rw [Block.relocate, if_neg (by omega), if_neg (by omega)]
  omega

/-- What moves along is put elsewhere than the attribute that moves. -/
theorem carry_ne (lone : policy.Lone attributes block inversion lead others trail)
    {item : Ranked} (member : item ∈ others) : block.carry item ≠ block.carry inversion.node := by
  intro same
  have late := lone.place_lt_of_mem_rest (List.mem_append_left trail member)
  have apart := lone.relocate_lt lone.node_mem lone.node_ne_previous late
  exact Nat.ne_of_gt apart (congrArg Ranked.place same)

/-- The ranked attributes in the order in which the fix puts them. -/
theorem ascending (lone : policy.Lone attributes block inversion lead others trail) :
    (lead ++ inversion.node :: (others ++ inversion.previous :: trail)).Pairwise
      fun left right => block.relocate left.place < block.relocate right.place := by
  obtain ⟨-, -, -, -, -, ends⟩ := bounds_of_blockAt? lone.chosen
  have smaller : (lead ++ inversion.node :: (others ++ trail)).Sublist
      (ranked policy.table attributes) := by
    rw [lone.whole]
    exact (List.sublist_cons_self _ _).append_left lead
  have apart : ∀ item ∈ lead ++ inversion.node :: (others ++ trail), item ≠ inversion.previous := by
    rintro item member rfl
    rcases List.mem_append.mp member with inLead | inRest
    · exact Nat.lt_irrefl _ (lone.place_lt_of_mem_lead inLead)
    · rcases List.mem_cons.mp inRest with same | behind
      · exact lone.node_ne_previous same.symm
      · exact Nat.lt_asymm lone.place_lt (lone.place_lt_of_mem_rest behind)
  have ordered : ((lead ++ inversion.node :: others) ++ trail).Pairwise
      fun left right => block.relocate left.place < block.relocate right.place := by
    have rest := (pairwise_place_ranked policy.table attributes).sublist smaller
    have kept := rest.imp_of_mem fun leftMember _ before =>
      lone.relocate_lt (smaller.subset leftMember) (apart _ leftMember) before
    simpa using kept
  obtain ⟨fronts, trails, cross⟩ := List.pairwise_append.mp ordered
  suffices whole : ((lead ++ inversion.node :: others) ++ inversion.previous :: trail).Pairwise
      fun left right => block.relocate left.place < block.relocate right.place by
    simpa using whole
  refine List.pairwise_append.mpr ⟨fronts,
    List.pairwise_cons.mpr ⟨fun _ inTrail => lone.relocate_previous_lt inTrail, trails⟩,
    fun item member => List.forall_mem_cons.mpr ⟨?_, cross item member⟩⟩
  rcases List.mem_append.mp member with inLead | inRest
  · exact lone.relocate_lt (by simp [lone.whole, inLead]) (apart item (by simp [inLead]))
      (lone.place_lt_of_mem_lead inLead)
  · rcases List.mem_cons.mp inRest with rfl | inOthers
    · exact lone.relocate_lt_previous (Nat.le_refl _) ends
    · have after := lone.place_lt_of_mem_rest (List.mem_append_left trail inOthers)
      exact lone.relocate_lt_previous (Nat.le_of_lt after) (lone.along item inOthers)

/-- Where the fix keeps the ranks, the ranked attributes stand in this order after it. -/
theorem map_unplaced_ranked {placed : Placed}
    (lone : policy.Lone placed.tag.attributes block inversion lead others trail)
    (keeps : block.KeepsRanks policy.table placed) :
    (ranked policy.table (block.rotate placed).tag.attributes).map Ranked.unplaced =
      (lead ++ inversion.node :: (others ++ inversion.previous :: trail)).map block.carry := by
  have same : (lead ++ inversion.node :: (others ++ inversion.previous :: trail)).Perm
      (ranked policy.table placed.tag.attributes) := by
    rw [lone.whole, List.perm_append_left_iff]
    exact (List.perm_middle.cons _).trans (.swap _ _ _)
  have now : ((ranked policy.table (block.rotate placed).tag.attributes).map
      Ranked.unplaced).Pairwise fun left right => left.place < right.place :=
    List.pairwise_map.mpr (pairwise_place_ranked policy.table _)
  have arranged : ((lead ++ inversion.node :: (others ++ inversion.previous :: trail)).map
      block.carry).Pairwise fun left right => left.place < right.place :=
    List.pairwise_map.mpr lone.ascending
  refine List.Perm.eq_of_pairwise (fun left right _ _ before behind => ?_) now arranged
    (keeps.trans (same.map _).symm)
  exact absurd behind (Nat.lt_asymm before)

end Policy.Lone

/-- Where a rotation keeps the ranks, it is the same who may follow whom. -/
theorem Block.KeepsRanks.mayFollow_eq {policy : Policy} {block : Block} {placed : Placed}
    (keeps : block.KeepsRanks policy.table placed) :
    policy.mayFollow (ranked policy.table (block.rotate placed).tag.attributes) =
      policy.mayFollow (ranked policy.table placed.tag.attributes) := by
  have bare := keeps.map Ranked.bare
  rw [List.map_map, List.map_map] at bare
  rw [← policy.mayFollow_map_bare, ← policy.mayFollow_map_bare (ranked _ placed.tag.attributes)]
  exact policy.mayFollow_perm bare

/-- Where the policy tells the attributes apart, a rotation leaves it the same who may follow
whom. -/
theorem Policy.Discerns.mayFollow_rotate {policy : Policy} {block : Block} {placed : Placed}
    (discerns : policy.Discerns placed.tag.attributes) (kept : placed.Kept (block.rotate placed)) :
    policy.mayFollow (ranked policy.table (block.rotate placed).tag.attributes) =
      policy.mayFollow (ranked policy.table placed.tag.attributes) := by
  have unplaced : ∀ attributes : List Attribute,
      policy.mayFollow (ranked policy.table (attributes.map Attribute.unplaced)) =
        policy.mayFollow (ranked policy.table attributes) := by
    intro attributes
    rw [ranked_unplaced, ← policy.mayFollow_map_bare, List.map_map,
      ← policy.mayFollow_map_bare (ranked policy.table attributes)]
    rfl
  rw [← unplaced, ← unplaced placed.tag.attributes,
    (discerns.unplaced.perm kept.contents).mayFollow_eq, discerns.unplaced.mayFollow_eq]
  exact policy.mayFollow_plainItems_perm kept.contents

namespace Policy.Lone

variable {policy : Policy} {block : Block} {inversion : Inversion} {lead others trail : List Ranked}

/-- Neighbours that were neighbours among those accepted are in order still. -/
theorem isChain_iff_neighbours {placed : Placed}
    (lone : policy.Lone placed.tag.attributes block inversion lead others trail) :
    let items := ranked policy.table placed.tag.attributes
    let after := ranked policy.table (block.rotate placed).tag.attributes
    (after.IsChain fun left right => policy.mayFollow after left right = true) ↔
      after.IsChain fun left right => policy.mayFollow after left right = true ∨
        (policy.mayFollow after = policy.mayFollow items ∧
          block.Neighbours (lead ++ inversion.previous :: (others ++ trail)) left right) := by
  intro items after
  constructor
  · exact fun chain => chain.imp fun _ _ => .inl
  · refine fun chain => chain.imp ?_
    rintro left right (follows | ⟨same, neighbours⟩)
    · exact follows
    · have images := (List.isChain_map block.carry (R := fun left right =>
        policy.mayFollow items left right = true)).mpr lone.accepted
      have chain := List.IsChain.infix images neighbours
      have pair := List.isChain_pair.mp chain
      rw [same]
      exact pair

/-- Where the fix keeps the ranks, it comes down to the places at which parts of the ranked list are
put together. -/
theorem isChain_iff_seams {placed : Placed}
    (lone : policy.Lone placed.tag.attributes block inversion lead others trail)
    (keeps : block.KeepsRanks policy.table placed) :
    let items := ranked policy.table placed.tag.attributes
    let after := ranked policy.table (block.rotate placed).tag.attributes
    (after.IsChain fun left right => policy.mayFollow after left right = true) ↔
      (lead.getLast?.toList ++
        inversion.node :: (others ++ inversion.previous :: trail.head?.toList)).IsChain
          fun left right => policy.mayFollow items left right = true := by
  intro items after
  have image : (after.IsChain fun left right => policy.mayFollow after left right = true) ↔
      (lead ++ inversion.node :: (others ++ inversion.previous :: trail)).IsChain
        fun left right => policy.mayFollow items left right = true := by
    rw [keeps.mayFollow_eq]
    refine (List.isChain_map Ranked.unplaced (R := fun left right =>
      policy.mayFollow items left right = true)).symm.trans ?_
    rw [lone.map_unplaced_ranked keeps]
    exact List.isChain_map block.carry
  have split : ∀ front back : List Ranked,
      front ++ inversion.node :: (others ++ inversion.previous :: back) =
        front ++ ((inversion.node :: (others ++ [inversion.previous])) ++ back) := by simp
  have accepted := lone.accepted
  rw [image, split, split]
  exact isChain_trim accepted.left_of_append accepted.right_of_append.tail.right_of_append
    (List.cons_ne_nil _ _)

/-- Where the policy decides, any two of the attributes accepted are in order. -/
theorem follows_of_ne {attributes : List Attribute}
    (lone : policy.Lone attributes block inversion lead others trail)
    (decides : policy.Decides (ranked policy.table attributes)) {left right : Ranked}
    (leftMember : left ∈ ranked policy.table attributes) (leftStays : left ≠ inversion.node)
    (rightMember : right ∈ ranked policy.table attributes) (rightStays : right ≠ inversion.node)
    (ordered : left.place < right.place) :
    policy.mayFollow (ranked policy.table attributes) left right = true := by
  have smaller : (lead ++ inversion.previous :: (others ++ trail)).Sublist
      (ranked policy.table attributes) := by
    rw [lone.whole]
    exact ((List.sublist_cons_self _ _).cons_cons _).append_left lead
  have accepted : (lead ++ inversion.previous :: (others ++ trail)).Pairwise fun left right =>
      policy.mayFollow (ranked policy.table attributes) left right = true := by
    refine pairwise_of_scan_eq_nil (fun first second third => ?_)
      (scan_eq_nil_iff_isChain.mpr lone.accepted)
    exact decides.trans (smaller.subset first) (smaller.subset second) (smaller.subset third)
  have stays : ∀ item ∈ ranked policy.table attributes, item ≠ inversion.node →
      item ∈ lead ++ inversion.previous :: (others ++ trail) := by
    intro item member other
    rcases lone.mem_cases member with inLead | rfl | rfl | inRest
    · exact List.mem_append_left _ inLead
    · exact List.mem_append_right _ List.mem_cons_self
    · exact absurd rfl other
    · exact List.mem_append_right _ (List.mem_cons_of_mem _ inRest)
  exact of_pairwise_place ((pairwise_place_ranked _ _).sublist smaller) accepted
    (stays left leftMember leftStays) (stays right rightMember rightStays) ordered

/-- Where the policy decides, `previous` may follow the attribute that moves. -/
theorem previous_follows {attributes : List Attribute}
    (lone : policy.Lone attributes block inversion lead others trail)
    (decides : policy.Decides (ranked policy.table attributes)) :
    policy.mayFollow (ranked policy.table attributes) inversion.node inversion.previous = true :=
  Turn.mayFollow_of_wrong decides lone.previous_mem lone.node_mem lone.place_lt lone.wrong

/-- Where the policy decides, two attributes are in order after the fix unless one of them is the
attribute that moves, behind one in front of the block, or the other is `previous`, behind one that
moves along. -/
theorem follows {attributes : List Attribute}
    (lone : policy.Lone attributes block inversion lead others trail)
    (decides : policy.Decides (ranked policy.table attributes)) {left right : Ranked}
    (leftMember : left ∈ ranked policy.table attributes)
    (rightMember : right ∈ ranked policy.table attributes)
    (ordered : block.relocate left.place < block.relocate right.place)
    (ahead : ¬ (left ∈ lead ∧ right = inversion.node))
    (along : ¬ (left ∈ others ∧ right = inversion.previous)) :
    policy.mayFollow (ranked policy.table attributes) left right = true := by
  by_cases rightMoves : right = inversion.node
  · subst rightMoves
    rcases lone.mem_cases leftMember with inLead | rfl | rfl | inRest
    · exact absurd ⟨inLead, rfl⟩ ahead
    · obtain ⟨-, -, -, -, -, ends⟩ := bounds_of_blockAt? lone.chosen
      exact absurd (lone.relocate_lt_previous (Nat.le_refl _) ends) (Nat.lt_asymm ordered)
    · exact absurd ordered (Nat.lt_irrefl _)
    · have late := lone.place_lt_of_mem_rest inRest
      exact absurd (lone.relocate_lt lone.node_mem lone.node_ne_previous late)
        (Nat.lt_asymm ordered)
  by_cases leftMoves : left = inversion.node
  · subst leftMoves
    have converse := lone.previous_follows decides
    rcases lone.mem_cases rightMember with inLead | rfl | rfl | inRest
    · have early := lone.place_lt_of_mem_lead inLead
      have other : right ≠ inversion.previous := by
        rintro rfl
        exact Nat.lt_irrefl _ early
      exact absurd (lone.relocate_lt rightMember other (Nat.lt_trans early lone.place_lt))
        (Nat.lt_asymm ordered)
    · exact converse
    · exact absurd rfl rightMoves
    · refine decides.trans lone.node_mem lone.previous_mem rightMember converse ?_
      exact lone.follows_of_ne decides lone.previous_mem lone.node_ne_previous.symm rightMember
        rightMoves (Nat.lt_trans lone.place_lt (lone.place_lt_of_mem_rest inRest))
  rcases Nat.lt_trichotomy left.place right.place with early | same | late
  · exact lone.follows_of_ne decides leftMember leftMoves rightMember rightMoves early
  · rw [same] at ordered
    exact absurd ordered (Nat.lt_irrefl _)
  · -- Only what moves along changes its order, and only with `previous`.
    by_cases passed : right = inversion.previous
    · subst passed
      rcases lone.mem_cases leftMember with inLead | rfl | rfl | inRest
      · exact absurd (lone.place_lt_of_mem_lead inLead) (Nat.lt_asymm late)
      · exact absurd late (Nat.lt_irrefl _)
      · exact absurd rfl leftMoves
      · rcases List.mem_append.mp inRest with inOthers | inTrail
        · exact absurd ⟨inOthers, rfl⟩ along
        · exact absurd (lone.relocate_previous_lt inTrail) (Nat.lt_asymm ordered)
    · exact absurd (lone.relocate_lt rightMember passed late) (Nat.lt_asymm ordered)

/-- Where the policy tells the attributes apart, the fix comes down to the pairs that are not
settled before. -/
theorem isChain_iff_unsettled {placed : Placed}
    (lone : policy.Lone placed.tag.attributes block inversion lead others trail)
    (discerns : policy.Discerns placed.tag.attributes) (kept : placed.Kept (block.rotate placed)) :
    let items := ranked policy.table placed.tag.attributes
    let after := ranked policy.table (block.rotate placed).tag.attributes
    (after.IsChain fun left right => policy.mayFollow after left right = true) ↔
      after.Pairwise fun left right => block.Unsettled items inversion left right →
        policy.mayFollow after left right = true := by
  intro items after
  have there : policy.Decides after :=
    (discerns.unplaced.perm kept.contents).of_unplaced.decides
  rw [← scan_eq_nil_iff_isChain, scan_eq_nil_iff ⟨there.total, there.trans⟩]
  constructor
  · intro ordered
    refine ordered.imp fun {left right} follows _ => ?_
    exact follows
  intro settled
  have ascending := pairwise_place_ranked policy.table (block.rotate placed).tag.attributes
  refine (ascending.and settled).imp ?_
  rintro left right ⟨before, settled⟩
  by_cases unsettled : block.Unsettled items inversion left right
  · exact settled unsettled
  obtain ⟨first, firstMember, firstSame⟩ :=
    List.mem_map.mp (by_contra fun none => unsettled (.anew (.inl none)))
  obtain ⟨second, secondMember, secondSame⟩ :=
    List.mem_map.mp (by_contra fun none => unsettled (.anew (.inr none)))
  have leftPlace : block.relocate first.place = left.place := congrArg Ranked.place firstSame
  have rightPlace : block.relocate second.place = right.place := congrArg Ranked.place secondSame
  have follows : policy.mayFollow items first second = true := by
    refine lone.follows discerns.decides firstMember secondMember (by omega) ?_ ?_
    · rintro ⟨inLead, rfl⟩
      exact unsettled (.ahead (leftPlace ▸ lone.relocate_lt_first inLead) secondSame.symm)
    · rintro ⟨inOthers, rfl⟩
      refine unsettled (.along (leftPlace ▸ lone.first_le_relocate inOthers) ?_ secondSame.symm)
      exact firstSame ▸ lone.carry_ne inOthers
  change policy.mayFollow after left.unplaced right.unplaced = true
  rw [← firstSame, ← secondSame, discerns.mayFollow_rotate kept]
  exact follows

/-- Without spread binds, and where the policy tells the attributes apart, the fix comes down to the
attribute that moves and the one accepted before `previous`. -/
theorem isChain_iff_of_spreadless {placed : Placed}
    (lone : policy.Lone placed.tag.attributes block inversion lead others trail)
    (discerns : policy.Discerns placed.tag.attributes)
    (spreadless : Spreadless placed.tag.attributes) :
    let mayFollow := policy.mayFollow (ranked policy.table placed.tag.attributes)
    let after := ranked policy.table (block.rotate placed).tag.attributes
    (after.IsChain fun left right => policy.mayFollow after left right = true) ↔
      ∀ item ∈ lead.getLast?, mayFollow item inversion.node = true := by
  intro mayFollow after
  have alone : others = [] := by
    refine List.eq_nil_iff_forall_not_mem.mpr fun item member => ?_
    obtain ⟨-, -, last, -⟩ := bounds_of_blockAt? lone.chosen
    have late := lone.place_lt_of_mem_rest (List.mem_append_left trail member)
    have within := lone.along item member
    rw [last, (cluster_of_spreadless spreadless _).2] at within
    omega
  have converse := lone.previous_follows discerns.decides
  have behind := lone.accepted.right_of_append
  rw [alone, List.nil_append] at behind
  have ends : (inversion.node :: inversion.previous :: trail.head?.toList).IsChain
      fun left right => mayFollow left right = true := by
    refine List.isChain_cons_cons.mpr ⟨converse, ?_⟩
    cases trail with
    | nil => exact .singleton _
    | cons next rest => exact List.isChain_pair.mpr (List.isChain_cons_cons.mp behind).1
  have keeps := Block.keepsRanks_of_spreadless policy.table lone.fits spreadless
  refine (lone.isChain_iff_seams keeps).trans ?_
  rw [alone, List.nil_append, List.isChain_append, and_iff_right ends]
  cases lead.getLast? <;> simp [mayFollow]

end Policy.Lone

/-- A check of a laid out tag that reports one violation, which can be fixed. Without the misplaced
attribute every attribute may follow the one in front of it, so the fix leaves no violation exactly
when the neighbours that it brings together are in order. If it keeps the ranks, these are found
where the attribute that moves, the others that move along, `previous` and what stands around them
are put together. Where the policy tells the attributes apart, only pairs that were not settled
before have to be in order, and without spread binds only the attribute that moves and the one
accepted before `previous`. -/
theorem clean_after_single_fix (rule : Rule) (placed : Placed)
    (laid : Laid placed.text 0 placed.tag.attributes) {violation : Violation}
    (checked : rule.check placed.tag = .ok [violation]) (fixable : violation.fixable = true) :
    let policy := rule.options.policy
    let items := ranked policy.table placed.tag.attributes
    let mayFollow := policy.mayFollow items
    ∃ block inversion lead others trail,
      policy.Lone placed.tag.attributes block inversion lead others trail ∧
      violation.node = inversion.node.node ∧ violation.previous = inversion.previous.node ∧
      Rule.applyFix? violation placed.text = some (block.rotate placed) ∧
      let next := (block.rotate placed).tag
      let after := ranked policy.table next.attributes
      (rule.check next = .ok [] ↔
        after.IsChain fun left right => policy.mayFollow after left right = true ∨
          (policy.mayFollow after = mayFollow ∧
            block.Neighbours (lead ++ inversion.previous :: (others ++ trail)) left right)) ∧
      (block.KeepsRanks policy.table placed → (rule.check next = .ok [] ↔
        (lead.getLast?.toList ++
          inversion.node :: (others ++ inversion.previous :: trail.head?.toList)).IsChain
            fun left right => mayFollow left right = true)) ∧
      (policy.Discerns placed.tag.attributes → (rule.check next = .ok [] ↔
        after.Pairwise fun left right => block.Unsettled items inversion left right →
          policy.mayFollow after left right = true)) ∧
      (policy.Discerns placed.tag.attributes → Spreadless placed.tag.attributes →
        (rule.check next = .ok [] ↔
          ∀ item ∈ lead.getLast?, mayFollow item inversion.node = true)) := by
  intro policy items mayFollow
  obtain ⟨block, inversion, lead, others, trail, lone, node, previous, fixed⟩ :=
    Rule.exists_lone laid.nodup checked fixable
  have kept := Placed.Kept.rotate lone.fits laid
  have clean : rule.check (block.rotate placed).tag = .ok [] ↔
      (ranked policy.table (block.rotate placed).tag.attributes).IsChain fun left right =>
        policy.mayFollow (ranked policy.table (block.rotate placed).tag.attributes) left right =
          true := Rule.check_eq_nil_iff.trans scan_eq_nil_iff_isChain
  exact ⟨block, inversion, lead, others, trail, lone, node, previous, fixed placed.text,
    clean.trans lone.isChain_iff_neighbours,
    fun keeps => clean.trans (lone.isChain_iff_seams keeps),
    fun discerns => clean.trans (lone.isChain_iff_unsettled discerns kept),
    fun discerns spreadless => clean.trans (lone.isChain_iff_of_spreadless discerns spreadless)⟩

/-- A plain attribute and the spread bind beside it go over a listener, and no violation is left. -/
theorem clean_after_single_fix_coupledPair :
    Laid coupledPair.text 0 coupledPair.tag.attributes ∧
    ∃ violation next, Rule.check {} coupledPair.tag = .ok [violation] ∧
      violation.fixable = true ∧ Rule.applyFix? violation coupledPair.text = some next ∧
      Rule.check {} next.tag = .ok [] := by
  let rule : Rule := {}
  have laid : Laid coupledPair.text 0 coupledPair.tag.attributes := by decide +kernel
  let violation : Violation :=
    { message := "Attribute \"id\" should go before \"@click\".".toList
      node := coupledPair.tag.attributes[2], previous := coupledPair.tag.attributes[0]
      tag := coupledPair.tag }
  have checked : rule.check coupledPair.tag = .ok [violation] :=
    eq_ok_of_toOption (by decide +kernel)
  obtain ⟨block, inversion, lead, others, trail, lone, -, -, fixed, -, seams, -⟩ :=
    clean_after_single_fix rule coupledPair laid checked rfl
  have whole := lone.whole
  have pair : ranked rule.options.policy.table coupledPair.tag.attributes =
      [⟨0, coupledPair.tag.attributes[0], 9⟩, ⟨2, coupledPair.tag.attributes[2], 4⟩] := by
    decide +kernel
  rw [pair] at whole
  have lengths := congrArg List.length whole
  simp only [List.length_append, List.length_cons, List.length_nil] at lengths
  obtain rfl := List.eq_nil_of_length_eq_zero (show lead.length = 0 by omega)
  obtain rfl := List.eq_nil_of_length_eq_zero (show others.length = 0 by omega)
  obtain rfl := List.eq_nil_of_length_eq_zero (show trail.length = 0 by omega)
  obtain ⟨previous, rest⟩ := List.cons.inj whole
  have node := (List.cons.inj rest).1
  have chosen := lone.chosen
  rw [← previous, ← node] at chosen
  have block : block = ⟨0, 1, 2⟩ := Option.some.inj (chosen.symm.trans (by decide +kernel))
  subst block
  have keeps : Block.KeepsRanks ⟨0, 1, 2⟩ rule.options.policy.table coupledPair := by
    rw [Block.KeepsRanks, ← ranked_unplaced, ← Placed.contents, Placed.contents_rotate lone.fits]
    decide +kernel
  refine ⟨laid, violation, _, checked, rfl, fixed, (seams keeps).mpr ?_⟩
  rw [← previous, ← node]
  decide +kernel

/-- A tag whose last attribute has to go before both of the others. -/
def outrunSample : Placed where
  text := "<p class=\"c\" @click=\"f\" id=\"i\">".toList
  tag :=
    { name := "p"
      attributes :=
        [{ name := "class", range := ⟨3, 12⟩, keyRange := ⟨3, 8⟩
           text := "class=\"c\"".toList, keyText := "class".toList },
          { directive := true, name := "on", argument := some "click", range := ⟨13, 23⟩
            keyRange := ⟨13, 19⟩, text := "@click=\"f\"".toList, keyText := "@click".toList },
          { name := "id", range := ⟨24, 30⟩, keyRange := ⟨24, 26⟩
            text := "id=\"i\"".toList, keyText := "id".toList }] }

/-- The one violation is against the last attribute accepted, so with its fix the attribute is still
behind the one accepted first. -/
theorem single_fix_not_clean :
    Laid outrunSample.text 0 outrunSample.tag.attributes ∧
    ∃ violation next, Rule.check {} outrunSample.tag = .ok [violation] ∧
      violation.fixable = true ∧ Rule.applyFix? violation outrunSample.text = some next ∧
      Rule.check {} next.tag ≠ .ok [] := by
  let violation : Violation :=
    { message := "Attribute \"id\" should go before \"@click\".".toList
      node := outrunSample.tag.attributes[2], previous := outrunSample.tag.attributes[1]
      tag := outrunSample.tag }
  have checked : Rule.check {} outrunSample.tag = .ok [violation] :=
    eq_ok_of_toOption (by decide +kernel)
  let block : Block := ⟨1, 2, 2⟩
  have fits : block.Fits outrunSample.tag.attributes := ⟨by decide, by decide, by decide⟩
  have found : block? outrunSample.tag.attributes violation.node violation.previous =
      some block := by decide +kernel
  have misplaced :
      (Rule.options {}).policy.inversions (block.rotate outrunSample).contents ≠ [] := by
    rw [Placed.contents_rotate fits]
    decide +kernel
  rw [Placed.contents, Policy.inversions_unplaced] at misplaced
  refine ⟨by decide +kernel, violation, block.rotate outrunSample, checked, rfl,
    Rule.applyFix?_of_block? checked List.mem_cons_self found _, fun clean => misplaced ?_⟩
  exact List.map_eq_nil_iff.mpr (Rule.check_eq_nil_iff.mp clean)

end TagOrder
