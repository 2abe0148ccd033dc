import TagOrder.Proofs.Rule.Check
import TagOrder.Proofs.Spread

/-!
# Coupled spread binds under a rotation

A spread bind is coupled when it is linked to a neighbour (`isCoupled_iff`). A rotation takes two
runs of places apart and puts them together in the other order, and since the moving run is a whole
cluster, the only link that it can cut is the one between `previous` and what stands in front of it
(`Block.linkedAt_rotate`). A spread bind that stands there and has no other partner is parted from
it when the attribute that moves in between sets no value; every other coupled spread bind stays
coupled (`coupling_kept`).
-/

namespace TagOrder

/-- Where attributes are linked does not depend on where they stand in a text. -/
theorem linkedAt_congr {left right : List Attribute} {place other : Nat}
    (here : left[place]?.map Attribute.unplaced = right[other]?.map Attribute.unplaced)
    (next : left[place + 1]?.map Attribute.unplaced = right[other + 1]?.map Attribute.unplaced) :
    LinkedAt left place ↔ LinkedAt right other := by
  have images : ∀ (attributes : List Attribute) (place : Nat), LinkedAt attributes place ↔
      ∃ left right, attributes[place]?.map Attribute.unplaced = some left ∧
        attributes[place + 1]?.map Attribute.unplaced = some right ∧ linked left right = true := by
    intro attributes place
    constructor
    · rintro ⟨left, right, atPlace, atNext, joined⟩
      exact ⟨left.unplaced, right.unplaced, by rw [atPlace]; rfl, by rw [atNext]; rfl, joined⟩
    · rintro ⟨_, _, atPlace, atNext, joined⟩
      obtain ⟨left, stands, rfl⟩ := Option.map_eq_some_iff.mp atPlace
      obtain ⟨right, follows, rfl⟩ := Option.map_eq_some_iff.mp atNext
      exact ⟨left, right, stands, follows, joined⟩
  rw [images, images, here, next]

namespace Block

variable {block : Block} {attributes : List Attribute}

/-- Places that stand side by side still do so, but for the two ends of the block and the seam
between its parts. -/
theorem relocate_succ (fits : block.Fits attributes) {place : Nat}
    (begins : place + 1 ≠ block.first) (parts : place + 1 ≠ block.moving)
    (ends : place ≠ block.last) : block.relocate (place + 1) = block.relocate place + 1 := by
  have passes := fits.passes
  have moves := fits.moves
  unfold relocate
  split <;> split <;> (try split) <;> (try split) <;> omega

/-- The first of the moving attributes goes to the front of the block. -/
theorem relocate_moving (fits : block.Fits attributes) :
    block.relocate block.moving = block.first := by
  have passes := fits.passes
  have moves := fits.moves
  rw [relocate, if_neg (by omega), if_neg (by omega)]
  omega

/-- A rotated list has at each relocated place what stood at the place. -/
theorem getElem?_rotate {placed : Placed} (fits : block.Fits placed.tag.attributes) (place : Nat) :
    (block.rotate placed).tag.attributes[block.relocate place]?.map Attribute.unplaced =
      placed.tag.attributes[place]?.map Attribute.unplaced := by
  have images := congrArg (fun nodes => nodes[block.relocate place]?) (rotate_unplaced fits)
  simpa only [List.getElem?_map, getElem?_exchanged fits place] using images

/-- Every link is kept but the one between the first slot and what stands in front of it. -/
theorem linkedAt_rotate {placed : Placed} {node previous : Attribute}
    (found : block? placed.tag.attributes node previous = some block) {place : Nat}
    (joined : LinkedAt placed.tag.attributes place) (begins : place + 1 ≠ block.first) :
    block.relocate (place + 1) = block.relocate place + 1 ∧
      LinkedAt (block.rotate placed).tag.attributes (block.relocate place) := by
  have fits := block?_fits found
  obtain ⟨-, inside, -, moving, last⟩ := exists_of_block? found
  have parts : place + 1 ≠ block.moving := fun same =>
    not_linkedAt_before_clusterStart (same.trans moving) joined
  have ends : place ≠ block.last := by
    rintro rfl
    rw [last] at joined
    exact not_linkedAt_clusterEnd _ _ joined
  have together := relocate_succ fits begins parts ends
  refine ⟨together, ?_⟩
  have next := getElem?_rotate fits (place + 1)
  rw [together] at next
  exact (linkedAt_congr (getElem?_rotate fits place) next).mpr joined

/-- Whether a rotation parts what stands at a place from its only partner: that is the first slot
right behind it, and `node`, which comes to stand between the two, sets no value. -/
structure Parts (block : Block) (attributes : List Attribute) (node : Attribute) (place : Nat) :
    Prop where
  facing : place + 1 = block.first
  valueless : node.setsValue = false
  alone : ∀ earlier, earlier + 1 = place → ¬ LinkedAt attributes earlier

section Found

variable {placed : Placed} {node previous : Attribute} {place : Nat}

/-- What comes to stand in the first slot sets a value just when `node` does. -/
theorem exists_first_mover (found : block? placed.tag.attributes node previous = some block) :
    ∃ mover, placed.tag.attributes[block.moving]? = some mover ∧
      mover.setsValue = node.setsValue := by
  have fits := block?_fits found
  obtain ⟨-, inside, stands, moving, last⟩ := exists_of_block? found
  have bound := fits.inside
  have moves := fits.moves
  obtain ⟨mover, here⟩ : ∃ mover, placed.tag.attributes[block.moving]? = some mover :=
    ⟨_, List.getElem?_eq_getElem (by omega)⟩
  refine ⟨mover, here, ?_⟩
  cases sets : node.setsValue with
  | true =>
    exact setsValue_of_cluster stands sets (Nat.le_of_eq moving.symm) (by omega) here
  | false =>
    -- An attribute that sets no value is its own cluster, so it is the first to move.
    rw [moving, (cluster_of_not_setsValue stands sets).1, stands] at here
    rw [← Option.some.inj here, sets]

/-- A coupled spread bind stays coupled, is parted from its only partner, or stands in the first
slot with its partner in front of the block. -/
theorem coupled_rotate (found : block? placed.tag.attributes node previous = some block)
    (coupled : isCoupled placed.tag.attributes place = true) :
    isCoupled (block.rotate placed).tag.attributes (block.relocate place) = true ∨
      block.Parts placed.tag.attributes node place ∨
      (place = block.first ∧ ¬ LinkedAt placed.tag.attributes place) := by
  have fits := block?_fits found
  obtain ⟨⟨spread, stands, isSpread⟩, links⟩ := isCoupled_iff.mp coupled
  obtain ⟨image, atImage, same⟩ := Option.map_eq_some_iff.mp
    ((getElem?_rotate fits place).trans (congrArg (Option.map Attribute.unplaced) stands))
  have imageSpread : image.isSpread = true := by
    rw [← Attribute.isSpread_unplaced, same, Attribute.isSpread_unplaced, isSpread]
  by_cases begins : place = block.first
  · by_cases joined : LinkedAt placed.tag.attributes place
    · exact .inl (isCoupled_iff.mpr ⟨⟨image, atImage, imageSpread⟩,
        .inl (linkedAt_rotate found joined (by omega)).2⟩)
    · exact .inr (.inr ⟨begins, joined⟩)
  by_cases before : ∃ earlier, earlier + 1 = place ∧ LinkedAt placed.tag.attributes earlier
  · obtain ⟨earlier, rfl, joined⟩ := before
    obtain ⟨together, kept⟩ := linkedAt_rotate found joined begins
    exact .inl (isCoupled_iff.mpr ⟨⟨image, atImage, imageSpread⟩, .inr ⟨_, together.symm, kept⟩⟩)
  · have joined := links.resolve_right before
    by_cases faces : place + 1 = block.first
    · cases sets : node.setsValue with
      | false =>
        exact .inr (.inl ⟨faces, sets, fun earlier next linked => before ⟨earlier, next, linked⟩⟩)
      | true =>
        -- The first of the moving attributes comes to stand behind the spread bind.
        refine .inl (isCoupled_iff.mpr ⟨⟨image, atImage, imageSpread⟩, .inl ?_⟩)
        have stays : block.relocate place = place := if_pos (.inl (by omega))
        obtain ⟨mover, atMoving, value⟩ := exists_first_mover found
        have next := getElem?_rotate fits block.moving
        rw [relocate_moving fits, ← faces, atMoving] at next
        obtain ⟨follower, follows, alike⟩ := Option.map_eq_some_iff.mp next
        rw [stays] at atImage ⊢
        refine ⟨image, follower, atImage, follows, linked_of_isSpread imageSpread ?_⟩
        rw [← Attribute.setsValue_unplaced, alike, Attribute.setsValue_unplaced, value, sets]
    · exact .inl (isCoupled_iff.mpr
        ⟨⟨image, atImage, imageSpread⟩, .inl (linkedAt_rotate found joined faces).2⟩)

/-- What is parted from its only partner is not coupled. -/
theorem Parts.not_coupled (found : block? placed.tag.attributes node previous = some block)
    (parts : block.Parts placed.tag.attributes node place) :
    isCoupled (block.rotate placed).tag.attributes (block.relocate place) = false := by
  have fits := block?_fits found
  obtain ⟨faces, valueless, alone⟩ := parts
  have stays : ∀ earlier, earlier ≤ place → block.relocate earlier = earlier :=
    fun earlier before => if_pos (.inl (by omega))
  rw [stays place (Nat.le_refl _), Bool.eq_false_iff]
  intro coupled
  rcases (isCoupled_iff.mp coupled).2 with joined | ⟨earlier, rfl, joined⟩
  · obtain ⟨mover, atMoving, value⟩ := exists_first_mover found
    have next := getElem?_rotate fits block.moving
    rw [relocate_moving fits, ← faces, atMoving] at next
    obtain ⟨left, right, -, atNext, linked⟩ := joined
    rw [atNext] at next
    have sets := (of_linked linked).2.1
    rw [← Attribute.setsValue_unplaced, Option.some.inj next, Attribute.setsValue_unplaced, value,
      valueless] at sets
    cases sets
  · have here := getElem?_rotate fits earlier
    have next := getElem?_rotate fits (earlier + 1)
    rw [stays earlier (by omega)] at here
    rw [stays (earlier + 1) (Nat.le_refl _)] at next
    exact alone earlier rfl ((linkedAt_congr here next).mp joined)

end Found

end Block

/-- The fix of a violation keeps every coupled spread bind coupled, but for the one that stands in
front of `previous` with no other partner, when `node` sets no value: that one is parted from its
partner. (In a list with equal attributes the first one that equals `previous` is passed, which may
be a coupled spread bind itself, with its partner in front of it.) -/
theorem coupling_kept (rule : Rule) (tag : Tag) (violations : List Violation)
    (violation : Violation) (checked : rule.check tag = .ok violations)
    (member : violation ∈ violations) (fixable : violation.fixable = true) :
    ∃ block, block? tag.attributes violation.node violation.previous = some block ∧
      ∀ text, Rule.applyFix? violation text = some (block.rotate ⟨tag, text⟩) ∧
        ∀ place, isCoupled tag.attributes place = true →
          (block.rotate ⟨tag, text⟩).tag.attributes[block.relocate place]?.map
              Attribute.unplaced = tag.attributes[place]?.map Attribute.unplaced ∧
          (isCoupled (block.rotate ⟨tag, text⟩).tag.attributes (block.relocate place) = true ∨
            block.Parts tag.attributes violation.node place ∨
            (place = block.first ∧ ¬ LinkedAt tag.attributes place ∧ ∃ later,
              block.first < later ∧ tag.attributes[later]? = some violation.previous)) ∧
          (block.Parts tag.attributes violation.node place →
            isCoupled (block.rotate ⟨tag, text⟩).tag.attributes (block.relocate place) =
              false) := by
  obtain ⟨inversion, reported, message, rfl⟩ := Rule.exists_of_mem_check checked member
  have found := Option.isSome_iff_exists.mp fixable
  obtain ⟨block, found⟩ := found
  refine ⟨block, found, fun text => ⟨Rule.applyFix?_of_block? checked member found text,
    fun place coupled => ⟨?_, ?_, ?_⟩⟩⟩
  · exact @Block.getElem?_rotate block ⟨tag, text⟩ (block?_fits found) place
  · refine (@Block.coupled_rotate block ⟨tag, text⟩ _ _ _ found coupled).imp_right
      fun parted => parted.imp_right ?_
    rintro ⟨rfl, apart⟩
    -- What is ranked is not coupled, so the `previous` that the check has seen stands elsewhere.
    obtain ⟨-, previous⟩ := Policy.mem_ranked_of_mem_inversions reported
    have stands := getElem?_of_mem_ranked previous
    have free := isCoupled_of_mem_ranked previous
    refine ⟨rfl, apart, inversion.previous.place, ?_, stands⟩
    obtain ⟨first, inside, atFirst, -, rfl, -⟩ := block?_eq_some.mp found
    obtain ⟨bound, -, least⟩ := List.idxOf?_eq_some_iff.mp atFirst
    obtain ⟨inList, same⟩ := List.getElem?_eq_some_iff.mp stands
    rcases Nat.lt_trichotomy first inversion.previous.place with before | here | behind
    · exact before
    · rw [← here, coupled] at free
      cases free
    · exact absurd same (least _ behind)
  · exact @Block.Parts.not_coupled block ⟨tag, text⟩ _ _ _ found

/-- A tag with a spread bind in front of a plain attribute, and an attribute that should go before
the plain one. -/
def facedTag (mover : Attribute) : Tag where
  name := "p"
  attributes :=
    [{ directive := true, name := "bind", range := ⟨3, 13⟩, keyRange := ⟨3, 9⟩
       text := "v-bind=\"o\"".toList, keyText := "v-bind".toList },
      { name := "class", range := ⟨14, 23⟩, keyRange := ⟨14, 19⟩
        text := "class=\"c\"".toList, keyText := "class".toList },
      mover]

/-- A plain attribute that goes before others. -/
def facedId : Attribute :=
  { name := "id", range := ⟨24, 30⟩, keyRange := ⟨24, 26⟩
    text := "id=\"i\"".toList, keyText := "id".toList }

/-- A condition, which goes before others as well. -/
def facedIf : Attribute :=
  { directive := true, name := "if", range := ⟨24, 32⟩, keyRange := ⟨24, 28⟩
    text := "v-if=\"a\"".toList, keyText := "v-if".toList }

/-- A plain attribute that moves in between takes the place of the partner. -/
theorem coupling_kept_facedTag :
    ∃ violation, Rule.check {} (facedTag facedId) = .ok [violation] ∧ violation.fixable = true ∧
      isCoupled (facedTag facedId).attributes 0 = true ∧
      ∀ text, ∃ next, Rule.applyFix? violation text = some next ∧
        isCoupled next.tag.attributes 0 = true := by
  let violation : Violation :=
    { message := "Attribute \"id\" should go before \"class\".".toList, node := facedId
      previous := (facedTag facedId).attributes[1], tag := facedTag facedId }
  have checked : Rule.check {} (facedTag facedId) = .ok [violation] :=
    eq_ok_of_toOption (by decide +kernel)
  have coupled : isCoupled (facedTag facedId).attributes 0 = true := by decide +kernel
  obtain ⟨block, found, fixed⟩ := coupling_kept _ _ _ violation checked List.mem_cons_self rfl
  have block? : block? (facedTag facedId).attributes facedId (facedTag facedId).attributes[1] =
      some ⟨1, 2, 2⟩ := by decide +kernel
  obtain rfl := Option.some.inj (found.symm.trans block?)
  refine ⟨violation, checked, rfl, coupled, fun text => ⟨_, (fixed text).1, ?_⟩⟩
  rcases ((fixed text).2 0 coupled).2.1 with kept | parts | ⟨begins, -⟩
  · exact kept
  · cases parts.valueless
  · cases begins

/-- The text of the tag with a condition. -/
def facedText : Text := "<p v-bind=\"o\" class=\"c\" v-if=\"a\">".toList

/-- A list that holds one spread bind twice, coupled at first and then ranked. -/
def echoedTag : Tag where
  name := "p"
  attributes :=
    [facedId, (facedTag facedIf).attributes[0],
      { directive := true, name := "model", keyText := "v-model".toList },
      (facedTag facedIf).attributes[0], facedIf, (facedTag facedIf).attributes[1]]

/-- A condition parts a spread bind from the plain attribute behind it, and the spread bind is left
where it was without a partner. In a list with equal attributes it may go between a spread bind and
the plain attribute in front of it. -/
theorem coupling_lost :
    (∃ violation, Rule.check {} (facedTag facedIf) = .ok [violation] ∧ violation.fixable = true ∧
      isCoupled (facedTag facedIf).attributes 0 = true ∧
      ∃ next, Rule.applyFix? violation facedText = some next ∧
        next.tag.attributes[0]? = (facedTag facedIf).attributes[0]? ∧
        isCoupled next.tag.attributes 0 = false) ∧
    ∃ violation, Rule.check {} echoedTag = .ok [violation] ∧ violation.fixable = true ∧
      isCoupled echoedTag.attributes 1 = true ∧
      ∃ next, Rule.applyFix? violation facedText = some next ∧
        next.tag.attributes[2]?.map Attribute.unplaced =
          echoedTag.attributes[1]?.map Attribute.unplaced ∧
        isCoupled next.tag.attributes 2 = false := by
  constructor
  · let violation : Violation :=
      { message := "Attribute \"v-if\" should go before \"class\".".toList, node := facedIf
        previous := (facedTag facedIf).attributes[1], tag := facedTag facedIf }
    have checked : Rule.check {} (facedTag facedIf) = .ok [violation] :=
      eq_ok_of_toOption (by decide +kernel)
    have found : block? (facedTag facedIf).attributes facedIf (facedTag facedIf).attributes[1] =
        some ⟨1, 2, 2⟩ := by decide +kernel
    have fixed := Rule.applyFix?_of_block? checked List.mem_cons_self found facedText
    exact ⟨violation, checked, rfl, by decide +kernel, _, fixed, rfl, by decide +kernel⟩
  · let violation : Violation :=
      { message := "Attribute \"v-if\" should go before \"v-bind\".".toList, node := facedIf
        previous := (facedTag facedIf).attributes[0], tag := echoedTag }
    have checked : Rule.check {} echoedTag = .ok [violation] :=
      eq_ok_of_toOption (by decide +kernel)
    have found : block? echoedTag.attributes facedIf (facedTag facedIf).attributes[0] =
        some ⟨1, 4, 4⟩ := by decide +kernel
    have fixed := Rule.applyFix?_of_block? checked List.mem_cons_self found facedText
    exact ⟨violation, checked, rfl, by decide +kernel, _, fixed, rfl, by decide +kernel⟩

end TagOrder
