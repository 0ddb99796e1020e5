import LddLearn.Chardev.Insertion
import LddLearn.Chardev.Interleaved

/-!
# What /proc reports

`poc_fop_show` prints the major and `has_open` as decimal numbers between fixed words. The digits
end where the words go on, so that the line gives back both numbers; and `has_open` counts the open
files even where opens race. So two lines are the same exactly when the major and the number of
open files are.
-/

set_option autoImplicit false

namespace LddLearn.Chardev02
open LddLearn.Chardev LddLearn.Library LddLearn.Library.Run

/-- The line `seq_printf` makes. -/
def pocFopShow (w : World) (dev : Device) : List Byte :=
  asciiBytes ("device-name=".toList ++ DEVICE_NAME.toList ++ " major=".toList ++ decimal w.major ++
    " open-counter=".toList ++ decimal dev.hasOpen ++ " buff-size=".toList ++ decimal BUFFER_SIZE ++
    "\n".toList)

/-! ## Numbers between words -/

section Printing
variable {α : Type} {separator : α} {one other rest tail : List α}

/-- What stands before the first separator, and what after it. -/
theorem split_at_first (inOne : separator ∉ one) (inOther : separator ∉ other)
    (same : one ++ separator :: rest = other ++ separator :: tail) : one = other ∧ rest = tail := by
  induction one generalizing other with
  | nil =>
    cases other with
    | nil => exact ⟨rfl, (List.cons.inj same).2⟩
    | cons b other => exact absurd ((List.cons.inj same).1 ▸ List.mem_cons_self) inOther
  | cons a one ih =>
    cases other with
    | nil => exact absurd ((List.cons.inj same).1 ▸ List.mem_cons_self) inOne
    | cons b other =>
      obtain ⟨rfl, later⟩ := List.cons.inj same
      have left : separator ∉ one := fun member => inOne (List.mem_cons_of_mem a member)
      have right : separator ∉ other := fun member => inOther (List.mem_cons_of_mem a member)
      obtain ⟨rfl, after⟩ := ih left right later
      exact ⟨rfl, after⟩

theorem digits_injective {m n : Nat} (same : Nat.toDigits 10 m = Nat.toDigits 10 n) : m = n := by
  rw [← Nat.ofDigitChars_ten_toDigits (n := m), same, Nat.ofDigitChars_ten_toDigits]

theorem minus_not_mem_digits (n : Nat) : '-' ∉ Nat.toDigits 10 n := by
  intro member
  have digit := Nat.isDigit_of_mem_toDigits (by decide) (by decide) member
  exact absurd digit (by decide)

theorem decimal_injective {m n : Int} (same : decimal m = decimal n) : m = n := by
  have digits := minus_not_mem_digits
  unfold decimal at same
  split at same <;> split at same
  · have := digits_injective (List.cons.inj same).2
    omega
  · exact absurd (same ▸ List.mem_cons_self) (digits n.natAbs)
  · exact absurd (same ▸ List.mem_cons_self) (digits m.natAbs)
  · have := digits_injective same
    omega

theorem space_not_mem_decimal (n : Int) : ' ' ∉ decimal n := by
  have digits : ' ' ∉ Nat.toDigits 10 n.natAbs := by
    intro member
    have digit := Nat.isDigit_of_mem_toDigits (by decide) (by decide) member
    exact absurd digit (by decide)
  unfold decimal
  split
  · simpa using digits
  · exact digits

theorem asciiBytes_injective {text text' : List Char} (plain : ∀ c ∈ text, 0 < c.toNat ∧ c.toNat < 256)
    (plain' : ∀ c ∈ text', 0 < c.toNat ∧ c.toNat < 256) (same : asciiBytes text = asciiBytes text') :
    text = text' := by
  induction text generalizing text' with
  | nil => exact (List.map_eq_nil_iff.mp same.symm).symm
  | cons c text ih =>
    cases text' with
    | nil => exact absurd same (by simp [asciiBytes])
    | cons c' text' =>
      obtain ⟨first, later⟩ := List.cons.inj same
      have code : c.toNat = c'.toNat := by
        have bytes := congrArg BitVec.toNat first
        have bound := (plain c List.mem_cons_self).2
        have bound' := (plain' c' List.mem_cons_self).2
        rw [BitVec.toNat_ofNat, BitVec.toNat_ofNat] at bytes
        omega
      rw [Char.toNat_inj.mp code, ih (fun d member => plain d (List.mem_cons_of_mem c member))
        (fun d member => plain' d (List.mem_cons_of_mem c' member)) later]

end Printing

/-! ## The line -/

/-- The text of the line, with the spaces that end the two numbers. -/
def line (major counter : Int) : List Char :=
  "device-name=chr-test-dev-2 major=".toList ++ (decimal major ++ ' ' ::
    ("open-counter=".toList ++ (decimal counter ++ ' ' :: "buff-size=32\n".toList)))

theorem pocFopShow_line (w : World) (dev : Device) :
    pocFopShow w dev = asciiBytes (line w.major dev.hasOpen) := by
  have name : "device-name=".toList ++ DEVICE_NAME.toList ++ " major=".toList =
      "device-name=chr-test-dev-2 major=".toList := by decide
  have counter : " open-counter=".toList = ' ' :: "open-counter=".toList := by decide
  have size : " buff-size=".toList ++ (decimal BUFFER_SIZE ++ "\n".toList) =
      ' ' :: "buff-size=32\n".toList := by decide
  unfold pocFopShow line
  rw [name, counter]
  simp only [List.append_assoc, List.cons_append, size]

theorem line_plain (major counter : Int) : ∀ c ∈ line major counter, 0 < c.toNat ∧ c.toNat < 256 := by
  refine List.forall_mem_append.mpr ⟨literal_plain (by decide), ?_⟩
  refine List.forall_mem_append.mpr ⟨decimal_plain major, List.forall_mem_cons.mpr ⟨by decide, ?_⟩⟩
  refine List.forall_mem_append.mpr ⟨literal_plain (by decide), ?_⟩
  refine List.forall_mem_append.mpr ⟨decimal_plain counter, ?_⟩
  exact List.forall_mem_cons.mpr ⟨by decide, literal_plain (by decide)⟩

theorem pocFopShow_eq_iff (w w' : World) (dev dev' : Device) :
    pocFopShow w dev = pocFopShow w' dev' ↔ w.major = w'.major ∧ dev.hasOpen = dev'.hasOpen := by
  constructor
  · intro same
    rw [pocFopShow_line, pocFopShow_line] at same
    have texts := asciiBytes_injective (line_plain _ _) (line_plain _ _) same
    obtain ⟨majors, rest⟩ := split_at_first (space_not_mem_decimal _) (space_not_mem_decimal _)
      (List.append_cancel_left texts)
    obtain ⟨counters, _⟩ := split_at_first (space_not_mem_decimal _) (space_not_mem_decimal _)
      (List.append_cancel_left rest)
    exact ⟨decimal_injective majors, decimal_injective counters⟩
  · rintro ⟨major, counter⟩
    rw [pocFopShow, pocFopShow, major, counter]

/-! ## Reports of runs -/

/-- Whatever has been run and however opens raced, `msg_buff` being large enough: two reports are
the same exactly when the majors are and as many files are open. -/
theorem report_counts_files {Process : Type} [DecidableEq Process] {increment : Int → Int}
    {behind behind' : Nat → Byte} {actions actions' : List (Process × Interleaved.Move)}
    {s s' : Interleaved.State Process}
    (reached : run (Interleaved.step increment) (.boot behind) actions = some s)
    (reached' : run (Interleaved.step increment) (.boot behind') actions' = some s') (w w' : World) :
    pocFopShow w s.dev = pocFopShow w' s'.dev ↔ w.major = w'.major ∧
      ∃ count, Tally (fun l : Interleaved.Local => l.place.Inside) s.processes count ∧
        Tally (fun l : Interleaved.Local => l.place.Inside) s'.processes count := by
  have counts : Interleaved.FlagCounts s :=
    run_preserves (fun s a t before taken => before.kept a taken) (.boot behind) reached
  have counts' : Interleaved.FlagCounts s' :=
    run_preserves (fun s a t before taken => before.kept a taken) (.boot behind') reached'
  obtain ⟨count, tally, flag⟩ := counts
  obtain ⟨count', tally', flag'⟩ := counts'
  rw [pocFopShow_eq_iff, flag, flag']
  refine and_congr_right fun _ => ⟨fun same => ?_, ?_⟩
  · obtain rfl := Int.ofNat_inj.mp same
    exact ⟨count, tally, tally'⟩
  · rintro ⟨files, one, other⟩
    rw [tally.unique one, tally'.unique other]

/-- Two opens race in one run; in the other one file is open. -/
theorem report_counts_files_race :
    ∃ s s' : Interleaved.State Bool,
      run (Interleaved.step wrapIncrement) (.boot fun _ => 255) [(false, .open true),
        (true, .open true), (false, .go), (true, .go)] = some s ∧
      run (Interleaved.step wrapIncrement) (.boot fun _ => 255) [(true, .open true), (true, .go)] =
        some s' ∧
      (pocFopShow ⟨250, ⟨[], []⟩⟩ s.dev = pocFopShow ⟨250, ⟨[], []⟩⟩ s'.dev ↔ (250 : Int) = 250 ∧
        ∃ count, Tally (fun l : Interleaved.Local => l.place.Inside) s.processes count ∧
          Tally (fun l : Interleaved.Local => l.place.Inside) s'.processes count) := by
  obtain ⟨s, reached⟩ := Option.isSome_iff_exists.mp
    (show (run (Interleaved.step wrapIncrement) (.boot fun _ => 255) [(false, .open true),
      (true, .open true), (false, .go), (true, .go)]).isSome = true by decide +kernel)
  obtain ⟨s', reached'⟩ := Option.isSome_iff_exists.mp
    (show (run (Interleaved.step wrapIncrement) (.boot fun _ => 255)
      [(true, .open true), (true, .go)]).isSome = true by decide +kernel)
  exact ⟨s, s', reached, reached', report_counts_files reached reached' ⟨250, ⟨[], []⟩⟩ ⟨250, ⟨[], []⟩⟩⟩

end LddLearn.Chardev02
