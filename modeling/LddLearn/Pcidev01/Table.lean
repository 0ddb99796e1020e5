import LddLearn.Library.Numbering
import LddLearn.Library.Run

/-!
# The device table of pcidev-01

`pci_cdev` links PCI devices to minors. Each loop over the array is a recursion
over the list of its entries that stops where the source breaks; the three
searches differ only in what they compare and return, and are instances of
`search`. A table holds a `Numbering` of the present devices by minors, and every
operation acts on it as the numbering's own does.
-/

set_option autoImplicit false

namespace LddLearn.Pcidev01
open LddLearn.Library LddLearn.Library.Run

/-- This structure is used to link a pci_dev to a cdev. -/
structure PciCdevPair (Dev Cdev : Type) where
  minor : Int
  pciDev : Option Dev
  cdev : Option Cdev
  deriving DecidableEq, Repr

variable {Dev Cdev : Type}

def pciCdevInit : Nat → Int → List (PciCdevPair Dev Cdev)
  | 0, _ => []
  | size + 1, firstMinor => ⟨firstMinor, none, none⟩ :: pciCdevInit size (firstMinor + 1)

/-- -1 when failed, others success. -/
def pciCdevAdd : List (PciCdevPair Dev Cdev) → Dev → Int × List (PciCdevPair Dev Cdev)
  | [], _ => (-1, [])
  | pair :: rest, pdev =>
    match pair.pciDev with
    | none => (pair.minor, { pair with pciDev := some pdev } :: rest)
    | some _ => ((pciCdevAdd rest pdev).1, pair :: (pciCdevAdd rest pdev).2)

/-- The searches' loop: the answer at the first entry that matches. -/
def search {β : Type} (matching : PciCdevPair Dev Cdev → Bool) (answer : PciCdevPair Dev Cdev → β)
    (otherwise : β) : List (PciCdevPair Dev Cdev) → β
  | [] => otherwise
  | pair :: rest => if matching pair then answer pair else search matching answer otherwise rest

def pciCdevSearchPciDev (table : List (PciCdevPair Dev Cdev)) (minor : Int) : Option Dev :=
  search (fun pair => pair.minor = minor) (·.pciDev) none table

def pciCdevSearchCdev (table : List (PciCdevPair Dev Cdev)) (minor : Int) : Option Cdev :=
  search (fun pair => pair.minor = minor) (·.cdev) none table

section Pdev
variable [DecidableEq Dev]

/-- The loop has no break: every entry of the device is cleared. The cdev stays. -/
def pciCdevDel (table : List (PciCdevPair Dev Cdev)) (pdev : Dev) :
    List (PciCdevPair Dev Cdev) :=
  table.map fun pair => if pair.pciDev = some pdev then { pair with pciDev := none } else pair

/-- -1 when not found, others found. -/
def pciCdevSearchMinor (table : List (PciCdevPair Dev Cdev)) (pdev : Dev) : Int :=
  search (fun pair => pair.pciDev = some pdev) (·.minor) (-1) table

end Pdev

def minors (table : List (PciCdevPair Dev Cdev)) : List Int := table.map (·.minor)

/-! ## One lemma for each loop -/

theorem search_cases {β : Type} (matching : PciCdevPair Dev Cdev → Bool)
    (answer : PciCdevPair Dev Cdev → β) (otherwise : β) (table : List (PciCdevPair Dev Cdev)) :
    (∀ pair ∈ table, matching pair = false) ∧ search matching answer otherwise table = otherwise ∨
    ∃ pair ∈ table, matching pair = true ∧
      search matching answer otherwise table = answer pair := by
  induction table with
  | nil => exact Or.inl ⟨by simp, rfl⟩
  | cons pair rest ih =>
    unfold search
    cases here : matching pair with
    | true => exact Or.inr ⟨pair, List.mem_cons_self, here, rfl⟩
    | false =>
      rcases ih with ⟨none, answered⟩ | ⟨found, member, hit, answered⟩
      · refine Or.inl ⟨?_, answered⟩
        intro other member
        rcases List.mem_cons.mp member with rfl | later
        · exact here
        · exact none other later
      · exact Or.inr ⟨found, List.mem_cons_of_mem pair member, hit, answered⟩

/-- The table is full, or the first free entry takes the device. -/
theorem pciCdevAdd_cases (table : List (PciCdevPair Dev Cdev)) (pdev : Dev) :
    (∀ pair ∈ table, pair.pciDev ≠ none) ∧ pciCdevAdd table pdev = (-1, table) ∨
    ∃ before pair after, table = before ++ pair :: after ∧
      (∀ earlier ∈ before, earlier.pciDev ≠ none) ∧ pair.pciDev = none ∧
      pciCdevAdd table pdev =
        (pair.minor, before ++ { pair with pciDev := some pdev } :: after) := by
  induction table with
  | nil => exact Or.inl ⟨by simp, rfl⟩
  | cons head rest ih =>
    unfold pciCdevAdd
    cases holder : head.pciDev with
    | none => exact Or.inr ⟨[], head, rest, rfl, by simp, holder, rfl⟩
    | some owner =>
      have taken : head.pciDev ≠ none := by simp [holder]
      rcases ih with ⟨full, result⟩ | ⟨before, pair, after, split, occupied, free, result⟩
      · exact Or.inl ⟨by simpa [taken] using full, by simp [result]⟩
      · exact Or.inr ⟨head :: before, pair, after, by simp [split],
          by simpa [taken] using occupied, free, by simp [result]⟩

theorem minors_init_succ (size : Nat) (first : Int) :
    minors (pciCdevInit (size + 1) first : List (PciCdevPair Dev Cdev)) =
      first :: minors (pciCdevInit size (first + 1) : List (PciCdevPair Dev Cdev)) := rfl

theorem mem_minors_init (size : Nat) (first k : Int) :
    k ∈ minors (pciCdevInit size first : List (PciCdevPair Dev Cdev)) ↔
      first ≤ k ∧ k < first + size := by
  induction size generalizing first with
  | zero =>
    simp only [minors, pciCdevInit, List.map_nil, List.not_mem_nil, false_iff]
    omega
  | succ size ih =>
    rw [minors_init_succ, List.mem_cons, ih]
    omega

theorem ascending_init (size : Nat) (first : Int) :
    (minors (pciCdevInit size first : List (PciCdevPair Dev Cdev))).Pairwise (· < ·) := by
  induction size generalizing first with
  | zero => exact List.Pairwise.nil
  | succ size ih =>
    rw [minors_init_succ]
    refine List.Pairwise.cons ?_ (ih (first + 1))
    intro k later
    have := (mem_minors_init size (first + 1) k).mp later
    omega

theorem empty_init (size : Nat) (first : Int) :
    ∀ pair ∈ (pciCdevInit size first : List (PciCdevPair Dev Cdev)),
      pair.pciDev = none ∧ pair.cdev = none := by
  induction size generalizing first with
  | zero => simp [pciCdevInit]
  | succ size ih => simpa [pciCdevInit] using ih (first + 1)

end LddLearn.Pcidev01
