import DocSplice.Text.Blank
import DocSplice.Text.Word

/-!
# Blanks, one by one

There are twenty-five blanks, so what all of them have in common can be checked.  `mem_blanks` says
that the list is complete; no blank is a word character (`isWord_of_isBlank`).
-/

namespace DocSplice

/-- The code points of the blanks. -/
def blankCodes : List Nat :=
  [0x09, 0x0A, 0x0B, 0x0C, 0x0D, 0x20, 0x85, 0xA0, 0x1680, 0x2000, 0x2001, 0x2002, 0x2003, 0x2004,
    0x2005, 0x2006, 0x2007, 0x2008, 0x2009, 0x200A, 0x2028, 0x2029, 0x202F, 0x205F, 0x3000]

/-- The blanks. -/
def blanks : List Char := blankCodes.map Char.ofNat

theorem mem_blanks {c : Char} (h : isBlank c = true) : c ∈ blanks := by
  have hcode : c.toNat ∈ blankCodes := by
    simp only [isBlank, Bool.or_eq_true, Bool.and_eq_true, decide_eq_true_eq, beq_iff_eq] at h
    simp only [blankCodes, List.mem_cons, List.not_mem_nil, or_false]
    omega
  have hread : Char.ofNat c.toNat = c := Char.ofNat_toNat c
  rw [← hread]
  exact List.mem_map_of_mem hcode

/-- A blank is no word character. -/
theorem isWord_of_isBlank {c : Char} (h : isBlank c = true) : isWord c = false := by
  have hall : blanks.all (fun c => !isWord c) = true := by decide +kernel
  exact Bool.not_eq_true' _ ▸ List.all_eq_true.mp hall c (mem_blanks h)

end DocSplice
