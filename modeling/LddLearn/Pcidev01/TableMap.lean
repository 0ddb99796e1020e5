import LddLearn.Pcidev01.Table

/-!
# The table is a one-to-one map

`Represents` couples a table with the numbering it stands for. `pci_cdev_add`
inserts under the lowest free minor, `pci_cdev_del` erases, and the searches read
the numbering, so any history of both leaves a finite one-to-one map between the
present devices and minors of the table's range.
-/

set_option autoImplicit false

namespace LddLearn.Pcidev01
open LddLearn.Library LddLearn.Library.Run

variable {Dev Cdev : Type}

/-! ## Coupling -/

/-- The table has the minors it was initialized with, and each entry holds the device
that has its minor, if any. -/
structure Represents {first : Int} {size : Nat} (N : Numbering Dev first size)
    (table : List (PciCdevPair Dev Cdev)) : Prop where
  layout : minors table = minors (pciCdevInit size first : List (PciCdevPair Dev Cdev))
  holders : ∀ pair ∈ table, ∀ d, pair.pciDev = some d ↔ N.number d = some pair.minor

variable {first k : Int} {size : Nat} {N : Numbering Dev first size} {d e : Dev}
  {table : List (PciCdevPair Dev Cdev)}

theorem represents_init (first : Int) (size : Nat) :
    Represents (Numbering.empty first size)
      (pciCdevInit size first : List (PciCdevPair Dev Cdev)) where
  layout := rfl
  holders := by
    intro pair member d
    rw [(empty_init size first pair member).1]
    simp [Numbering.empty]

theorem Represents.ascending (rep : Represents N table) : (minors table).Pairwise (· < ·) :=
  rep.layout ▸ ascending_init size first

theorem Represents.range (rep : Represents N table) (k : Int) :
    k ∈ minors table ↔ first ≤ k ∧ k < first + size :=
  rep.layout ▸ mem_minors_init size first k

theorem Represents.entry (rep : Represents N table) (inRange : first ≤ k ∧ k < first + size) :
    ∃ pair ∈ table, pair.minor = k :=
  List.mem_map.mp ((rep.range k).mpr inRange)

theorem Represents.minor_inRange (rep : Represents N table) {pair : PciCdevPair Dev Cdev}
    (member : pair ∈ table) : first ≤ pair.minor ∧ pair.minor < first + size :=
  (rep.range pair.minor).mp (List.mem_map_of_mem member)

/-- The numbered devices are those of the entries. -/
theorem Represents.mem_domain_iff (rep : Represents N table) :
    d ∈ N.domain ↔ ∃ pair ∈ table, pair.pciDev = some d := by
  constructor
  · intro present
    obtain ⟨k, numbered⟩ := N.number_of_mem present
    obtain ⟨pair, member, here⟩ := rep.entry (N.inRange d k numbered)
    exact ⟨pair, member, (rep.holders pair member d).mpr (here ▸ numbered)⟩
  · rintro ⟨pair, member, holder⟩
    exact N.mem_of_number ((rep.holders pair member d).mp holder)

/-- The entry of a free number is empty, and conversely. -/
theorem Represents.free_iff (rep : Represents N table) {pair : PciCdevPair Dev Cdev}
    (member : pair ∈ table) : N.Free pair.minor ↔ pair.pciDev = none := by
  constructor
  · intro free
    cases holder : pair.pciDev with
    | none => rfl
    | some d => exact absurd ((rep.holders pair member d).mp holder) (free.2 d)
  · intro empty
    refine ⟨rep.minor_inRange member, ?_⟩
    intro d numbered
    have holder := (rep.holders pair member d).mpr numbered
    rw [empty] at holder
    exact absurd holder (by simp)

/-! ## Searches -/

theorem Represents.searchPciDev (rep : Represents N table) (k : Int) (d : Dev) :
    pciCdevSearchPciDev table k = some d ↔ N.number d = some k := by
  rcases search_cases (fun pair => pair.minor = k) (·.pciDev) none table with
    ⟨missing, answered⟩ | ⟨pair, member, hit, answered⟩
  · unfold pciCdevSearchPciDev
    rw [answered]
    constructor
    · intro impossible
      exact absurd impossible (by simp)
    · intro numbered
      obtain ⟨pair, member, here⟩ := rep.entry (N.inRange d k numbered)
      have := missing pair member
      simp [here] at this
  · have here : pair.minor = k := of_decide_eq_true hit
    unfold pciCdevSearchPciDev
    rw [answered, rep.holders pair member d, here]

theorem Represents.searchMinor [DecidableEq Dev] (rep : Represents N table) (d : Dev) :
    pciCdevSearchMinor table d = (N.number d).getD (-1) := by
  rcases search_cases (fun pair => pair.pciDev = some d) (·.minor) (-1) table with
    ⟨missing, answered⟩ | ⟨pair, member, hit, answered⟩
  · unfold pciCdevSearchMinor
    rw [answered]
    cases numbered : N.number d with
    | none => rfl
    | some k =>
      obtain ⟨pair, member, here⟩ := rep.entry (N.inRange d k numbered)
      have holder := (rep.holders pair member d).mpr (here ▸ numbered)
      have := missing pair member
      simp [holder] at this
  · have holder : pair.pciDev = some d := of_decide_eq_true hit
    unfold pciCdevSearchMinor
    rw [answered, (rep.holders pair member d).mp holder]
    rfl

/-- An entry is determined by its minor, so a search for that finds it. -/
theorem searchCdev_of_ascending (ascending : (minors table).Pairwise (· < ·))
    {pair : PciCdevPair Dev Cdev} (member : pair ∈ table) :
    pciCdevSearchCdev table pair.minor = pair.cdev := by
  rcases search_cases (fun other => other.minor = pair.minor) (·.cdev) none table with
    ⟨missing, answered⟩ | ⟨other, here, hit, answered⟩
  · have := missing pair member
    simp at this
  · have distinct : (minors table).Nodup := ascending.imp ne_of_lt
    have same : other = pair :=
      List.inj_on_of_nodup_map distinct here member (of_decide_eq_true hit)
    unfold pciCdevSearchCdev
    rw [answered, same]

/-- The two searches of a remove find the cdev of the device's entry. -/
theorem Represents.searchCdev_of_holder [DecidableEq Dev] (rep : Represents N table)
    {pair : PciCdevPair Dev Cdev} (member : pair ∈ table) (holder : pair.pciDev = some d) :
    pciCdevSearchCdev table (pciCdevSearchMinor table d) = pair.cdev := by
  have numbered := (rep.holders pair member d).mp holder
  rw [rep.searchMinor, numbered, Option.getD_some, searchCdev_of_ascending rep.ascending member]

theorem Represents.searchCdev_outside (rep : Represents N table)
    (outside : ¬ (first ≤ k ∧ k < first + size)) : pciCdevSearchCdev table k = none := by
  rcases search_cases (fun other => other.minor = k) (·.cdev) none table with
    ⟨missing, answered⟩ | ⟨other, here, hit, answered⟩
  · exact answered
  · have same : other.minor = k := of_decide_eq_true hit
    exact absurd (same ▸ rep.minor_inRange here) outside

/-! ## pci_cdev_add -/

/-- A full table has as many devices as entries. -/
theorem Represents.full (rep : Represents N table) (full : ∀ pair ∈ table, pair.pciDev ≠ none) :
    N.domain.card = size := by
  rw [N.card_eq_size_iff]
  intro k free
  obtain ⟨pair, member, here⟩ := rep.entry free.1
  exact full pair member ((rep.free_iff member).mp (here ▸ free))

/-- The first empty entry has the lowest free number. -/
theorem Represents.lowest {before after : List (PciCdevPair Dev Cdev)}
    {pair : PciCdevPair Dev Cdev} (rep : Represents N (before ++ pair :: after))
    (occupied : ∀ earlier ∈ before, earlier.pciDev ≠ none) (empty : pair.pciDev = none) :
    IsLeast {k | N.Free k} pair.minor := by
  refine ⟨(rep.free_iff (by simp)).mpr empty, ?_⟩
  intro k free
  obtain ⟨other, member, here⟩ := rep.entry free.1
  have otherEmpty := (rep.free_iff member).mp (here ▸ free)
  rcases List.mem_append.mp member with earlier | later
  · exact absurd otherEmpty (occupied other earlier)
  · rcases List.mem_cons.mp later with same | behind
    · exact le_of_eq (same ▸ here)
    · have ascending := rep.ascending
      unfold minors at ascending
      rw [List.map_append, List.map_cons, List.pairwise_append, List.pairwise_cons] at ascending
      have below := ascending.2.1.1 other.minor (List.mem_map_of_mem behind)
      omega

theorem Represents.insert [DecidableEq Dev] {before after : List (PciCdevPair Dev Cdev)}
    {pair : PciCdevPair Dev Cdev} (rep : Represents N (before ++ pair :: after))
    (absent : d ∉ N.domain) (free : N.Free pair.minor) :
    Represents (N.insert d pair.minor free)
      (before ++ { pair with pciDev := some d } :: after) := by
  have sameMinors : minors (before ++ { pair with pciDev := some d } :: after) =
      minors (before ++ pair :: after) := by simp [minors]
  refine ⟨sameMinors.trans rep.layout, ?_⟩
  intro other member e
  have ascending := rep.ascending
  unfold minors at ascending
  rw [List.map_append, List.map_cons, List.pairwise_append, List.pairwise_cons] at ascending
  have placed : other = { pair with pciDev := some d } ∨
      other ∈ before ++ pair :: after ∧ other.minor ≠ pair.minor := by
    rcases List.mem_append.mp member with earlier | later
    · have below := ascending.2.2 other.minor (List.mem_map_of_mem earlier) pair.minor (by simp)
      exact Or.inr ⟨List.mem_append_left _ earlier, by omega⟩
    · rcases List.mem_cons.mp later with same | behind
      · exact Or.inl same
      · have above := ascending.2.1.1 other.minor (List.mem_map_of_mem behind)
        exact Or.inr ⟨by simp [behind], by omega⟩
  rcases placed with same | ⟨kept, elsewhere⟩
  · subst same
    by_cases isD : e = d
    · subst isD
      simp
    · rw [Numbering.number_insert_of_ne free isD]
      have notNumbered := free.2 e
      constructor
      · intro same
        exact absurd (Option.some.inj same).symm isD
      · intro numbered
        exact absurd numbered notNumbered
  · rw [rep.holders other kept e]
    by_cases isD : e = d
    · subst isD
      rw [N.number_eq_none absent, Numbering.number_insert_self]
      constructor
      · intro impossible
        exact absurd impossible (by simp)
      · intro same
        exact absurd (Option.some.inj same).symm elsewhere
    · rw [Numbering.number_insert_of_ne free isD]

/-- `pci_cdev_add` reports a full table and leaves it alone, or inserts the device under
the lowest free minor. -/
theorem Represents.add [DecidableEq Dev] (rep : Represents N table) (nonneg : 0 ≤ first)
    (absent : d ∉ N.domain) :
    N.domain.card = size ∧ pciCdevAdd table d = (-1, table) ∨
    N.domain.card ≠ size ∧ (pciCdevAdd table d).1 ≠ -1 ∧
      ∃ free : N.Free (pciCdevAdd table d).1, IsLeast {k | N.Free k} (pciCdevAdd table d).1 ∧
        Represents (N.insert d (pciCdevAdd table d).1 free) (pciCdevAdd table d).2 := by
  rcases pciCdevAdd_cases table d with
    ⟨full, result⟩ | ⟨before, pair, after, split, occupied, empty, result⟩
  · exact Or.inl ⟨rep.full full, result⟩
  · subst split
    have least := rep.lowest occupied empty
    have notFull : N.domain.card ≠ size := by
      intro full
      exact N.card_eq_size_iff.mp full pair.minor least.1
    have range := least.1.1
    rw [result]
    exact Or.inr ⟨notFull, by dsimp only; omega, least.1, least, rep.insert absent least.1⟩

/-! ## pci_cdev_del -/

theorem minors_del [DecidableEq Dev] (table : List (PciCdevPair Dev Cdev)) (d : Dev) :
    minors (pciCdevDel table d) = minors table := by
  unfold minors pciCdevDel
  rw [List.map_map]
  apply List.map_congr_left
  intro pair _
  rw [Function.comp_apply]
  split <;> rfl

theorem Represents.del [DecidableEq Dev] (rep : Represents N table) (d : Dev) :
    Represents (N.erase d) (pciCdevDel table d) := by
  refine ⟨(minors_del table d).trans rep.layout, ?_⟩
  intro cleared member e
  obtain ⟨pair, original, same⟩ := List.mem_map.mp member
  subst same
  have holders := rep.holders pair original
  by_cases isD : e = d
  · subst isD
    rw [Numbering.number_erase_self]
    by_cases holder : pair.pciDev = some e
    · simp [holder]
    · simp [holder]
  · rw [Numbering.number_erase_of_ne isD]
    by_cases holder : pair.pciDev = some d
    · rw [if_pos holder, ← holders e, holder]
      simp [Ne.symm isD]
    · rw [if_neg holder, holders e]

/-! ## Runs of additions and deletions -/

/-- The table, and the devices added and not deleted since. -/
structure TableState (Dev Cdev : Type) where
  table : List (PciCdevPair Dev Cdev)
  present : Finset Dev

inductive TableCall (Dev : Type) where
  | add (pdev : Dev)
  | del (pdev : Dev)
  deriving DecidableEq, Repr

/-- `pci_cdev_init(table, n, m)` -/
def TableState.init (size : Nat) (firstMinor : Int) : TableState Dev Cdev :=
  ⟨pciCdevInit size firstMinor, ∅⟩

variable [DecidableEq Dev]

def TableState.add (s : TableState Dev Cdev) (pdev : Dev) : TableState Dev Cdev where
  table := (pciCdevAdd s.table pdev).2
  present := if (pciCdevAdd s.table pdev).1 = -1 then s.present else insert pdev s.present

def TableState.del (s : TableState Dev Cdev) (pdev : Dev) : TableState Dev Cdev where
  table := pciCdevDel s.table pdev
  present := s.present.erase pdev

def tableStep (s : TableState Dev Cdev) : TableCall Dev → Option (TableState Dev Cdev)
  | .add pdev => some (s.add pdev)
  | .del pdev => some (s.del pdev)

/-- No device is added while it is already present. -/
def AddsAbsent (s : TableState Dev Cdev) : TableCall Dev → Prop
  | .add pdev => pdev ∉ s.present
  | .del _ => True

instance (s : TableState Dev Cdev) : ∀ c : TableCall Dev, Decidable (AddsAbsent s c)
  | .add pdev => inferInstanceAs (Decidable (pdev ∉ s.present))
  | .del _ => isTrue trivial

/-- The table is a one-to-one map between the present devices and minors of its range,
and the searches are its two directions. -/
structure IsMinorMap (first : Int) (size : Nat) (s : TableState Dev Cdev) : Prop where
  represents : ∃ N : Numbering Dev first size, N.domain = s.present ∧ Represents N s.table
  found : ∀ d ∈ s.present, (first ≤ pciCdevSearchMinor s.table d ∧
    pciCdevSearchMinor s.table d < first + size) ∧
    pciCdevSearchPciDev s.table (pciCdevSearchMinor s.table d) = some d
  notFound : ∀ d, d ∉ s.present → pciCdevSearchMinor s.table d = -1
  inverse : ∀ k d, pciCdevSearchPciDev s.table k = some d →
    d ∈ s.present ∧ pciCdevSearchMinor s.table d = k

/-- The minors of the range that no device has. -/
def freeMinors (first : Int) (size : Nat) (table : List (PciCdevPair Dev Cdev)) : Set Int :=
  {k | (first ≤ k ∧ k < first + size) ∧ pciCdevSearchPciDev table k = none}

/-- No search answers differently for a device other than `d`. -/
def SameForOthers (d : Dev) (before after : List (PciCdevPair Dev Cdev)) : Prop :=
  ∀ e, e ≠ d → pciCdevSearchMinor after e = pciCdevSearchMinor before e ∧
    ∀ k, pciCdevSearchPciDev after k = some e ↔ pciCdevSearchPciDev before k = some e

/-- What one call does: an addition fails, changing nothing, exactly when `size` devices
are present, and else assigns the lowest free minor; a deletion frees the device's
minor. -/
def CallFacts (first : Int) (size : Nat) (s : TableState Dev Cdev) : TableCall Dev → Prop
  | .add d =>
    let res := (pciCdevAdd s.table d).1
    let after := (pciCdevAdd s.table d).2
    (res = -1 ↔ s.present.card = size) ∧ (res = -1 → after = s.table) ∧
      (res ≠ -1 → IsLeast (freeMinors first size s.table) res ∧
        pciCdevSearchMinor after d = res) ∧
      SameForOthers d s.table after
  | .del d =>
    let after := pciCdevDel s.table d
    pciCdevSearchMinor after d = -1 ∧ SameForOthers d s.table after ∧
      (d ∈ s.present → pciCdevSearchMinor s.table d ∈ freeMinors first size after)

variable {s : TableState Dev Cdev}

omit [DecidableEq Dev] in
theorem Represents.freeMinors (rep : Represents N table) :
    freeMinors first size table = {k | N.Free k} := by
  ext k
  refine and_congr_right fun inRange => ?_
  constructor
  · intro empty d numbered
    have := (rep.searchPciDev k d).mpr numbered
    rw [empty] at this
    exact absurd this (by simp)
  · intro unused
    cases answer : pciCdevSearchPciDev table k with
    | none => rfl
    | some d => exact absurd ((rep.searchPciDev k d).mp answer) (unused d)

theorem Represents.sameForOthers {N' : Numbering Dev first size}
    {after : List (PciCdevPair Dev Cdev)} (rep : Represents N table) (rep' : Represents N' after)
    (same : ∀ e, e ≠ d → N'.number e = N.number e) : SameForOthers d table after := by
  intro e different
  refine ⟨?_, fun k => ?_⟩
  · rw [rep.searchMinor, rep'.searchMinor, same e different]
  · rw [rep.searchPciDev, rep'.searchPciDev, same e different]

theorem Represents.isMinorMap (rep : Represents N s.table) (domain : N.domain = s.present) :
    IsMinorMap first size s where
  represents := ⟨N, domain, rep⟩
  found := by
    intro d present
    obtain ⟨k, numbered⟩ := N.number_of_mem (domain ▸ present)
    rw [rep.searchMinor, numbered, Option.getD_some, rep.searchPciDev]
    exact ⟨N.inRange d k numbered, numbered⟩
  notFound := by
    intro d absent
    rw [rep.searchMinor, N.number_eq_none (domain ▸ absent), Option.getD_none]
  inverse := by
    intro k d answer
    have numbered := (rep.searchPciDev k d).mp answer
    rw [rep.searchMinor, numbered]
    exact ⟨domain ▸ N.mem_of_number numbered, rfl⟩

theorem IsMinorMap.add (before : IsMinorMap first size s) (nonneg : 0 ≤ first)
    (absent : d ∉ s.present) :
    IsMinorMap first size (s.add d) ∧ CallFacts first size s (.add d) := by
  obtain ⟨N, domain, rep⟩ := before.represents
  unfold TableState.add CallFacts
  dsimp only
  rcases rep.add nonneg (domain ▸ absent) with ⟨full, result⟩ | ⟨notFull, minor, free, least, rep'⟩
  · rw [result]
    refine ⟨rep.isMinorMap domain, ⟨fun _ => domain ▸ full, fun _ => rfl⟩, fun _ => rfl,
      fun other => absurd rfl other, fun e _ => ⟨rfl, fun k => Iff.rfl⟩⟩
  · rw [if_neg minor]
    refine ⟨rep'.isMinorMap (congrArg (insert d) domain), ?_, ?_, ?_, ?_⟩
    · constructor
      · intro failed
        exact absurd failed minor
      · intro full
        exact absurd (domain ▸ full) notFull
    · intro failed
      exact absurd failed minor
    · intro _
      rw [rep.freeMinors, rep'.searchMinor, Numbering.number_insert_self]
      exact ⟨least, rfl⟩
    · exact rep.sameForOthers rep' fun e different => Numbering.number_insert_of_ne free different

theorem IsMinorMap.del (before : IsMinorMap first size s) (d : Dev) :
    IsMinorMap first size (s.del d) ∧ CallFacts first size s (.del d) := by
  obtain ⟨N, domain, rep⟩ := before.represents
  have rep' := rep.del d
  refine ⟨rep'.isMinorMap (congrArg (Finset.erase · d) domain), ?_, ?_, ?_⟩
  · rw [rep'.searchMinor, Numbering.number_erase_self]
    rfl
  · exact rep.sameForOthers rep' fun e different => Numbering.number_erase_of_ne different
  · intro present
    obtain ⟨k, numbered⟩ := N.number_of_mem (domain ▸ present)
    rw [rep.searchMinor, numbered, rep'.freeMinors]
    exact Numbering.free_erase numbered

theorem IsMinorMap.kept (nonneg : 0 ≤ first) (c : TableCall Dev) (before : IsMinorMap first size s)
    (absent : AddsAbsent s c) :
    Leads tableStep (IsMinorMap first size) s c ∧ CallFacts first size s c := by
  cases c with
  | add d =>
    obtain ⟨after, facts⟩ := before.add nonneg absent
    exact ⟨⟨_, rfl, after⟩, facts⟩
  | del d =>
    obtain ⟨after, facts⟩ := before.del d
    exact ⟨⟨_, rfl, after⟩, facts⟩

/-- Whatever is added and deleted, as long as no device is added while present: the table
is a one-to-one map of the present devices, and every call does to it what it is meant
to. -/
theorem table_is_minor_map {size : Nat} {firstMinor : Int} {calls : List (TableCall Dev)}
    (nonneg : 0 ≤ firstMinor)
    (discipline : Each tableStep AddsAbsent
      (TableState.init size firstMinor : TableState Dev Cdev) calls) :
    (∃ s, run tableStep (TableState.init size firstMinor : TableState Dev Cdev) calls = some s ∧
      IsMinorMap firstMinor size s) ∧
    Each tableStep (CallFacts firstMinor size)
      (TableState.init size firstMinor : TableState Dev Cdev) calls := by
  have start : IsMinorMap firstMinor size (TableState.init size firstMinor : TableState Dev Cdev) :=
    (represents_init firstMinor size).isMinorMap rfl
  constructor
  · exact run_guarded (fun s c before absent => (before.kept nonneg c absent).1) start discipline
  · exact each_of_guarded
      (fun s c after before absent taken => (before.kept nonneg c absent).1.reached taken)
      (fun s c before absent => (before.kept nonneg c absent).2) start discipline

/-- Two entries: a third device is turned away, and a freed minor is given out again. -/
def reuse : List (TableCall Nat) := [.add 7, .add 8, .add 9, .del 7, .add 9]

theorem table_is_minor_map_reuse :
    (∃ s, run tableStep (TableState.init 2 0 : TableState Nat Unit) reuse = some s ∧
      IsMinorMap 0 2 s) ∧
    Each tableStep (CallFacts 0 2) (TableState.init 2 0 : TableState Nat Unit) reuse :=
  table_is_minor_map (by decide) (by decide +kernel)

end LddLearn.Pcidev01
