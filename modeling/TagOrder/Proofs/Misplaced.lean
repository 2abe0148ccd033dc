import Mathlib.Data.List.Forall2
import Mathlib.Data.List.Nodup
import TagOrder.Proofs.Preference
import TagOrder.Proofs.Ranking
import TagOrder.Proofs.Sorting

/-!
# Misplaced attributes

A scan compares each item with the last one accepted and with no other. Where a relation decides
between any two items and is transitive among them, that is enough: every item that the scan has
gone over may precede the last one accepted, so an item is reported exactly when some earlier one,
reported or not, may not precede it (`scanFrom_stands`). `inversions_misplaced` says so of the
ranked attributes of a tag.
-/

namespace TagOrder

/-- Whether the item at a place stands behind one that may not precede it. -/
def misplaced (mayFollow : Ranked -> Ranked -> Bool) (items : List Ranked) (place : Nat) : Bool :=
  items[place]?.any fun item => (items.take place).any fun earlier => !mayFollow earlier item

/-- The places of misplaced items, in ascending order. -/
def misplacedPlaces (mayFollow : Ranked -> Ranked -> Bool) (items : List Ranked) : List Nat :=
  (List.range items.length).filter (misplaced mayFollow items)

/-- The item before a place that is in place while all items between the two are misplaced. -/
def LastInPlace (mayFollow : Ranked -> Ranked -> Bool) (items : List Ranked) (stop : Nat)
    (item : Ranked) : Prop :=
  ∃ place < stop, items[place]? = some item ∧ misplaced mayFollow items place = false ∧
    ∀ between, place < between → between < stop → misplaced mayFollow items between = true

/-- An inversion that reports the item at a place against the last item in place before it. -/
structure Inversion.Stands (mayFollow : Ranked -> Ranked -> Bool) (items : List Ranked)
    (place : Nat) (inversion : Inversion) : Prop where
  node : items[place]? = some inversion.node
  previous : LastInPlace mayFollow items place inversion.previous

section Scan

variable {mayFollow : Ranked -> Ranked -> Bool} {items front back : List Ranked}
  {item previous : Ranked} {place : Nat}

theorem misplaced_iff (inside : place < items.length) :
    misplaced mayFollow items place = true ↔
      ∃ earlier, ∃ before : earlier < place, mayFollow items[earlier] items[place] = false := by
  unfold misplaced
  rw [List.getElem?_eq_getElem inside, Option.any_some, List.any_eq_true]
  constructor
  · rintro ⟨left, member, wrong⟩
    obtain ⟨earlier, bound, rfl⟩ := List.mem_iff_getElem.mp member
    rw [List.length_take] at bound
    rw [List.getElem_take, Bool.not_eq_true'] at wrong
    exact ⟨earlier, by omega, wrong⟩
  · rintro ⟨earlier, before, wrong⟩
    refine ⟨items[earlier], ?_, by rw [wrong]; rfl⟩
    rw [List.mem_take_iff_getElem]
    exact ⟨earlier, by omega, rfl⟩

/-- Whether an item is misplaced does not depend on what stands behind it. -/
theorem misplaced_append (inside : place < front.length) (back : List Ranked) :
    misplaced mayFollow (front ++ back) place = misplaced mayFollow front place := by
  unfold misplaced
  rw [List.getElem?_append_left inside, List.take_append_of_le_length (Nat.le_of_lt inside)]

theorem misplaced_append_cons :
    misplaced mayFollow (front ++ item :: back) front.length =
      front.any fun earlier => !mayFollow earlier item := by
  unfold misplaced
  rw [List.getElem?_append_right (Nat.le_refl _), Nat.sub_self, List.getElem?_cons_zero,
    Option.any_some, List.take_left]

/-- The last item in place does not depend on what stands behind it. -/
theorem LastInPlace.append (last : LastInPlace mayFollow front front.length item)
    (back : List Ranked) : LastInPlace mayFollow (front ++ back) front.length item := by
  obtain ⟨place, before, stands, inPlace, behind⟩ := last
  refine ⟨place, before, ?_, ?_, fun between after inside => ?_⟩
  · rw [List.getElem?_append_left before, stands]
  · rw [misplaced_append before, inPlace]
  · rw [misplaced_append inside, behind between after inside]

/-- A scan reports the misplaced items one by one, each against the last item in place before it.
What it has gone over may precede the item that it accepted last. -/
theorem scanFrom_stands (decides : DecidesAmong mayFollow (front ++ back))
    (last : LastInPlace mayFollow front front.length previous)
    (precede : ∀ earlier ∈ front, earlier = previous ∨ mayFollow earlier previous = true) :
    List.Forall₂ (Inversion.Stands mayFollow (front ++ back))
      ((List.range' front.length back.length).filter (misplaced mayFollow (front ++ back)))
      (scanFrom mayFollow previous back) := by
  induction back generalizing front previous with
  | nil => exact .nil
  | cons current rest ih =>
    have here : misplaced mayFollow (front ++ current :: rest) front.length =
        front.any fun earlier => !mayFollow earlier current := misplaced_append_cons
    have member : previous ∈ front := by
      obtain ⟨place, -, stands, -⟩ := last
      exact List.mem_of_getElem? stands
    have previousMember : previous ∈ front ++ current :: rest := List.mem_append_left _ member
    have currentMember : current ∈ front ++ current :: rest := by simp
    rw [List.length_cons, List.range'_succ, List.filter_cons, here, scanFrom]
    by_cases follows : mayFollow previous current = true
    · -- Accepted: what may precede the item accepted before may precede this one.
      have precedes : ∀ earlier ∈ front, mayFollow earlier current = true := by
        intro earlier inFront
        rcases precede earlier inFront with rfl | before
        · exact follows
        · exact decides.trans (List.mem_append_left _ inFront) previousMember currentMember
            before follows
      have inPlace : (front.any fun earlier => !mayFollow earlier current) = false := by
        rw [List.any_eq_false]
        intro earlier inFront
        rw [precedes earlier inFront]
        decide
      rw [inPlace, if_neg (by decide), if_pos follows]
      have accepted : LastInPlace mayFollow (front ++ [current]) (front ++ [current]).length
          current := by
        rw [List.length_append, List.length_singleton]
        refine ⟨front.length, Nat.lt_succ_self _, List.getElem?_concat_length, ?_,
          fun between after before => by omega⟩
        rw [misplaced_append_cons, inPlace]
      rw [List.append_cons] at decides ⊢
      have tail := ih decides accepted fun earlier inFront =>
        (List.mem_append.mp inFront).elim (fun old => .inr (precedes earlier old))
          fun new => .inl (List.mem_singleton.mp new)
      rwa [List.length_append, List.length_singleton] at tail
    · -- Reported: of this item and the one accepted before, one may follow the other.
      have wrong : (front.any fun earlier => !mayFollow earlier current) = true := by
        rw [List.any_eq_true]
        exact ⟨previous, member, by rw [Bool.eq_false_iff.mpr follows]; rfl⟩
      have converse : mayFollow current previous = true := by
        have total := (List.pairwise_append.mp decides.total).2.2
        exact (total previous member current List.mem_cons_self).resolve_left follows
      rw [wrong, if_pos rfl, if_neg follows]
      refine .cons ⟨?_, last.append _⟩ ?_
      · rw [List.getElem?_append_right (Nat.le_refl _), Nat.sub_self, List.getElem?_cons_zero]
      · have stays : LastInPlace mayFollow (front ++ [current]) (front ++ [current]).length
            previous := by
          obtain ⟨place, before, stands, inPlace, behind⟩ := last.append [current]
          rw [List.length_append, List.length_singleton]
          refine ⟨place, Nat.lt_succ_of_lt before, stands, inPlace, fun between after inside => ?_⟩
          rcases Nat.lt_succ_iff_lt_or_eq.mp inside with earlier | rfl
          · exact behind between after earlier
          · rw [misplaced_append_cons, wrong]
        rw [List.append_cons] at decides ⊢
        have tail := ih decides stays fun earlier inFront =>
          (List.mem_append.mp inFront).elim (precede earlier)
            fun new => .inr (List.mem_singleton.mp new ▸ converse)
        rwa [List.length_append, List.length_singleton] at tail

/-- The first inversion of a scan at which a search finds something. What stands in front of the
item accepted before may precede that item; what stands between the two is reported against it as
well, but there is nothing to be found at it. -/
structure Inversion.Found {β : Type} (mayFollow : Ranked -> Ranked -> Bool)
    (search : Inversion -> Option β) (found : β) (front between : List Ranked)
    (inversion : Inversion) : Prop where
  precede : ∀ earlier ∈ front, mayFollow earlier inversion.previous = true
  blocked : ∀ item ∈ between, mayFollow inversion.previous item = false ∧
    search ⟨item, inversion.previous⟩ = none
  wrong : mayFollow inversion.previous inversion.node = false
  finds : search inversion = some found

theorem exists_of_findSome?_scanFrom {β : Type} {search : Inversion -> Option β} {found : β}
    {between rest : List Ranked}
    (decides : DecidesAmong mayFollow (front ++ previous :: (between ++ rest)))
    (precede : ∀ earlier ∈ front, mayFollow earlier previous = true)
    (blocked : ∀ item ∈ between,
      mayFollow previous item = false ∧ search ⟨item, previous⟩ = none)
    (finds : (scanFrom mayFollow previous rest).findSome? search = some found) :
    ∃ lead middle inversion trail,
      front ++ previous :: (between ++ rest) =
        lead ++ inversion.previous :: (middle ++ inversion.node :: trail) ∧
      Inversion.Found mayFollow search found lead middle inversion := by
  induction rest generalizing front previous between with
  | nil => cases finds
  | cons current rest ih =>
    rw [scanFrom] at finds
    by_cases follows : mayFollow previous current = true
    · -- Accepted: what may precede the item accepted before may precede this one.
      rw [if_pos follows] at finds
      have precedes : ∀ earlier ∈ front ++ previous :: between,
          mayFollow earlier current = true := by
        have total := (List.pairwise_append.mp decides.total).2.1
        have behind := (List.pairwise_cons.mp total).1
        have currentMember : current ∈ front ++ previous :: (between ++ current :: rest) := by simp
        have previousMember : previous ∈ front ++ previous :: (between ++ current :: rest) := by
          simp
        intro earlier member
        rcases List.mem_append.mp member with inFront | later
        · exact decides.trans (List.mem_append_left _ inFront) previousMember currentMember
            (precede earlier inFront) follows
        · rcases List.mem_cons.mp later with rfl | inBetween
          · exact follows
          · have ahead : mayFollow earlier previous = true := by
              refine (behind earlier (List.mem_append_left _ inBetween)).resolve_left ?_
              rw [(blocked earlier inBetween).1]
              decide
            exact decides.trans (by simp [inBetween]) previousMember currentMember ahead follows
      have regrouped : front ++ previous :: (between ++ current :: rest) =
          (front ++ previous :: between) ++ current :: ([] ++ rest) := by simp
      rw [regrouped] at decides ⊢
      exact ih decides precedes (by simp) finds
    · rw [if_neg follows, List.findSome?_cons] at finds
      have wrong := Bool.eq_false_iff.mpr follows
      cases sought : search ⟨current, previous⟩ with
      | some here =>
        rw [sought] at finds
        exact ⟨front, between, ⟨current, previous⟩, rest, rfl,
          ⟨precede, blocked, wrong, sought.trans finds⟩⟩
      | none =>
        rw [sought] at finds
        rw [List.append_cons between] at decides ⊢
        refine ih decides precede ?_ finds
        exact List.forall_mem_append.mpr
          ⟨blocked, List.forall_mem_singleton.mpr ⟨wrong, sought⟩⟩

/-- What a search finds in a scan it finds at the first inversion where there is something. -/
theorem exists_of_findSome?_scan {β : Type} {search : Inversion -> Option β} {found : β}
    (decides : DecidesAmong mayFollow items)
    (finds : (scan mayFollow items).findSome? search = some found) :
    ∃ lead middle inversion trail,
      items = lead ++ inversion.previous :: (middle ++ inversion.node :: trail) ∧
      Inversion.Found mayFollow search found lead middle inversion := by
  cases items with
  | nil => cases finds
  | cons first rest =>
    have whole : first :: rest = [] ++ first :: ([] ++ rest) := rfl
    rw [whole] at decides ⊢
    exact exists_of_findSome?_scanFrom decides (by simp) (by simp) finds

/-- A scan of a whole list reports its misplaced items. -/
theorem scan_stands (decides : DecidesAmong mayFollow items) :
    List.Forall₂ (Inversion.Stands mayFollow items) (misplacedPlaces mayFollow items)
      (scan mayFollow items) := by
  cases items with
  | nil => exact .nil
  | cons first rest =>
    have last : LastInPlace mayFollow [first] [first].length first :=
      ⟨0, Nat.zero_lt_one, rfl, rfl, fun between after before => by
        rw [List.length_singleton] at before
        omega⟩
    have among : DecidesAmong mayFollow ([first] ++ rest) := decides
    have tail := scanFrom_stands among last fun earlier member =>
      .inl (List.mem_singleton.mp member)
    have inPlace : misplaced mayFollow (first :: rest) 0 = false := rfl
    unfold misplacedPlaces
    rw [List.length_cons, List.range_eq_range', List.range'_succ, List.filter_cons, inPlace,
      if_neg (by decide)]
    exact tail

/-- The reported items are the misplaced ones. -/
theorem map_node_scan (decides : DecidesAmong mayFollow items) :
    (scan mayFollow items).map (fun inversion => some inversion.node) =
      (misplacedPlaces mayFollow items).map fun place => items[place]? := by
  rw [← List.forall₂_eq_eq_eq, List.forall₂_map_left_iff, List.forall₂_map_right_iff]
  exact (scan_stands decides).flip.imp fun _ _ stands => stands.node.symm

/-- In a list without repetitions an item is reported exactly when it is misplaced. -/
theorem exists_reported_iff (decides : DecidesAmong mayFollow items) (distinct : items.Nodup)
    (inside : place < items.length) :
    (∃ inversion ∈ scan mayFollow items, inversion.node = items[place]) ↔
      misplaced mayFollow items place = true := by
  have same :
      some items[place] ∈ (scan mayFollow items).map (fun inversion => some inversion.node) ↔
        some items[place] ∈ (misplacedPlaces mayFollow items).map fun place => items[place]? := by
    rw [map_node_scan decides]
  simp only [List.mem_map, Option.some.injEq] at same
  rw [same]
  constructor
  · rintro ⟨found, member, here⟩
    obtain ⟨bound, here⟩ := List.getElem?_eq_some_iff.mp here
    obtain rfl := distinct.getElem_inj_iff.mp here
    exact (List.mem_filter.mp member).2
  · intro wrong
    exact ⟨place, List.mem_filter.mpr ⟨List.mem_range.mpr inside, wrong⟩,
      List.getElem?_eq_getElem inside⟩

/-- Nothing is reported exactly when every item may precede all that stand behind it. -/
theorem scan_eq_nil_iff (decides : DecidesAmong mayFollow items) :
    scan mayFollow items = [] ↔
      items.Pairwise fun left right => mayFollow left right = true := by
  constructor
  · exact pairwise_of_scan_eq_nil decides.trans
  · intro ordered
    have none : misplacedPlaces mayFollow items = [] := by
      refine List.filter_eq_nil_iff.mpr fun place member wrong => ?_
      obtain ⟨earlier, before, against⟩ := (misplaced_iff (List.mem_range.mp member)).mp wrong
      rw [List.pairwise_iff_getElem.mp ordered earlier place _ _ before] at against
      cases against
    have nodes := map_node_scan decides
    rw [none, List.map_nil] at nodes
    exact List.map_eq_nil_iff.mp nodes

end Scan

/-- A ranked attribute stands once among the ranked attributes. -/
theorem nodup_ranked (table : RankTable) (attributes : List Attribute) :
    (ranked table attributes).Nodup :=
  (pairwise_place_ranked table attributes).imp fun {left right} before same => by
    rw [same] at before
    exact Nat.lt_irrefl _ before

/-- Among ranked attributes that the policy can tell apart, an attribute is reported exactly when
an earlier one, reported or not, may not precede it. Each is reported once, in source order, and
against the last one before it that is not reported. So nothing is reported exactly when every
attribute may precede all that stand behind it. -/
theorem inversions_misplaced (policy : Policy) (attributes : List Attribute)
    (decides : policy.Decides (ranked policy.table attributes)) :
    let items := ranked policy.table attributes
    let mayFollow := policy.mayFollow items
    let reported := policy.inversions attributes
    (∀ place, ∀ inside : place < items.length,
      ((∃ inversion ∈ reported, inversion.node = items[place]) ↔
        misplaced mayFollow items place = true) ∧
      (misplaced mayFollow items place = true ↔
        ∃ earlier, ∃ before : earlier < place, mayFollow items[earlier] items[place] = false)) ∧
    List.Forall₂ (Inversion.Stands mayFollow items) (misplacedPlaces mayFollow items) reported ∧
    (reported = [] ↔ items.Pairwise fun left right => mayFollow left right = true) := by
  intro items mayFollow reported
  have among : DecidesAmong mayFollow items := ⟨decides.total, decides.trans⟩
  have distinct : items.Nodup := nodup_ranked policy.table attributes
  exact ⟨fun place inside => ⟨exists_reported_iff among distinct inside, misplaced_iff inside⟩,
    scan_stands among, scan_eq_nil_iff among⟩

/-- Listeners come before plain attributes, each by the alphabet. -/
def listenersFirst : Policy :=
  { table := Order.table [.one .events, .one .otherAttr], alphabetical := true }

/-- A tag in which both attributes behind the second one are misplaced. -/
def strayedSample : List Attribute :=
  [{ directive := true, name := "on", argument := some "click", text := "@click=\"f\"".toList
     keyText := "@click".toList },
    { name := "title", text := "title=\"y\"".toList, keyText := "title".toList },
    { directive := true, name := "on", argument := some "blur", text := "@blur=\"g\"".toList
      keyText := "@blur".toList },
    { name := "alt", text := "alt=\"z\"".toList, keyText := "alt".toList }]

/-- The attribute at the end may follow the misplaced listener in front of it, and is reported all
the same. -/
theorem inversions_misplaced_strayedSample :
    let items := ranked listenersFirst.table strayedSample
    listenersFirst.Decides items ∧
      (∃ inversion ∈ listenersFirst.inversions strayedSample, inversion.node.place = 3) ∧
      List.Forall₂ (Inversion.Stands (listenersFirst.mayFollow items) items) [2, 3]
        (listenersFirst.inversions strayedSample) ∧
      listenersFirst.inversions strayedSample ≠ [] := by
  intro items
  have decides : listenersFirst.Decides items :=
    ⟨by decide +kernel, List.pairwise_of_forall fun _ _ _ _ _ pins => by cases pins⟩
  obtain ⟨reported, stand, clean⟩ := inversions_misplaced listenersFirst strayedSample decides
  have wrong : misplaced (listenersFirst.mayFollow items) items 3 = true := by decide +kernel
  have places : misplacedPlaces (listenersFirst.mayFollow items) items = [2, 3] := by
    decide +kernel
  have unsorted : ¬ items.Pairwise fun left right =>
      listenersFirst.mayFollow items left right = true := by decide +kernel
  obtain ⟨inversion, member, node⟩ := (reported 3 (by decide +kernel)).1.mpr wrong
  refine ⟨decides, ⟨inversion, member, ?_⟩, places ▸ stand, fun none => unsorted (clean.mp none)⟩
  rw [node]
  decide +kernel

end TagOrder
