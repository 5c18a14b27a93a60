import FeeOracle.Text.Blank
import FeeOracle.Text.Uppercase
import Mathlib.Data.List.Basic

/-!
# Uppercase is stable

The uppercase mapping of Unicode leaves its own results alone (`uppercase_uppercase`), and it makes
no blanks. For single characters both are facts about the tables. They are not checked letter by
letter but run by run: all that a run is mapped to lies apart from every letter that is mapped, and
from every blank. Of ASCII the tables have a single run, so there the mapping is that of the capital
letters (`uppercaseChar_of_ascii`).
-/

namespace FeeOracle.Text

namespace CaseRun

/-- The least code point that the run maps a letter to. -/
def start (run : CaseRun) : Nat := (run.first + run.shift).toNat

/-- The greatest one. -/
def finish (run : CaseRun) : Nat := run.start + (run.last - run.first)

/-- The run of a single code point that is mapped to itself. -/
def single (code : Nat) : CaseRun := ⟨code, code, 1, 0⟩

/-- Does the run map its letters to characters that the other run does not cover? Either the one lie
    outside of the other, or the two alternate. -/
def avoids (run other : CaseRun) : Bool :=
  Nat.blt run.finish other.first || Nat.blt other.last run.start ||
    (run.step == 2 || run.first == run.last) && other.step ==
      2 && (run.start + other.first) % 2 == 1

/-- Are all code points that the run maps to those of characters? -/
def isProper (run : CaseRun) : Bool :=
  decide (0 ≤ run.first + run.shift) &&
    (Nat.blt run.finish 0xD800 || Nat.blt 0xDFFF run.start && Nat.blt run.finish 0x110000)

theorem map?_eq_some_iff {run : CaseRun} {code image : Nat} :
    run.map? code = some image ↔
      (run.first ≤ code ∧ code ≤ run.last ∧ (code - run.first) % run.step = 0) ∧
      (code + run.shift).toNat = image := by
  simp [map?]

theorem map?_single {code : Nat} : (single code).map? code = some code := by
  simp [map?, single]

/-- What a run maps to lies between its start and its finish, and keeps its step. -/
theorem image_eq {run : CaseRun} {code image : Nat} (hproper : run.isProper = true)
    (h : run.map? code = some image) :
    image = run.start + (code - run.first) ∧ code - run.first ≤ run.last - run.first ∧
      (code - run.first) % run.step = 0 := by
  obtain ⟨⟨hfirst, hlast, hstep⟩, rfl⟩ := map?_eq_some_iff.1 h
  have hstart : (0 : Int) ≤ run.first + run.shift := by
    have hleft := (Bool.and_eq_true_iff.1 hproper).1
    simpa using hleft
  refine ⟨?_, by omega, hstep⟩
  unfold start
  omega

/-- A code point that a run maps to is that of a character. -/
theorem isValidChar_image {run : CaseRun} {code image : Nat} (hproper : run.isProper = true)
    (h : run.map? code = some image) : image.isValidChar := by
  obtain ⟨himage, hdistance, -⟩ := image_eq hproper h
  simp only [isProper, finish, Bool.and_eq_true, Bool.or_eq_true, Nat.blt_eq,
    decide_eq_true_eq] at hproper
  unfold Nat.isValidChar
  omega

/-- What a run maps to is not covered by a run that it avoids. -/
theorem map?_image_of_avoids {run other : CaseRun} {code image : Nat}
    (hproper : run.isProper = true) (havoids : run.avoids other = true)
    (h : run.map? code = some image) : other.map? image = none := by
  obtain ⟨himage, hdistance, hstep⟩ := image_eq hproper h
  rw [Option.eq_none_iff_forall_ne_some]
  intro second hsecond
  obtain ⟨⟨hfirst, hlast, hotherStep⟩, -⟩ := map?_eq_some_iff.1 hsecond
  simp only [avoids, finish, Bool.or_eq_true, Bool.and_eq_true, Nat.blt_eq, beq_iff_eq] at havoids
  obtain (hbefore | hafter) | ⟨⟨hrunStep, hotherTwo⟩, hparity⟩ := havoids
  · omega
  · omega
  · rw [hotherTwo] at hotherStep
    -- Both distances are even, so the two starts would have the same parity.
    have heven : (code - run.first) % 2 = 0 := by
      rcases hrunStep with htwo | hone
      · rwa [htwo] at hstep
      · omega
    omega

end CaseRun

theorem isLower_iff {c : Char} : c.isLower = true ↔ 97 ≤ c.toNat ∧ c.toNat ≤ 122 := by
  change (decide (97 ≤ c.val) && decide (c.val ≤ 122)) = true ↔ _
  rw [Bool.and_eq_true, decide_eq_true_eq, decide_eq_true_eq, UInt32.le_iff_toNat_le,
    UInt32.le_iff_toNat_le]
  rfl

theorem toNat_toLower (c : Char) :
    c.toLower.toNat = if 65 ≤ c.toNat ∧ c.toNat ≤ 90 then c.toNat + 32 else c.toNat := by
  unfold Char.toLower
  simp only [ge_iff_le, UInt32.le_iff_toNat_le]
  change Char.toNat (if h : 65 ≤ c.toNat ∧ c.toNat ≤ 90 then _ else c) = _
  split
  next h =>
    change (c.val + 32).toNat = _
    rw [UInt32.toNat_add]
    change (c.toNat + 32) % 2 ^ 32 = _
    omega
  next => rfl

theorem toNat_toUpper (c : Char) :
    c.toUpper.toNat = if 97 ≤ c.toNat ∧ c.toNat ≤ 122 then c.toNat - 32 else c.toNat := by
  unfold Char.toUpper
  simp only [UInt32.le_iff_toNat_le]
  change Char.toNat (if h : 97 ≤ c.toNat ∧ c.toNat ≤ 122 then _ else c) = _
  split
  next h =>
    -- The distance between the two cases is added, not taken away, and it wraps around.
    change (c.val + ('A'.val - 'a'.val)).toNat = _
    rw [UInt32.toNat_add]
    change (c.toNat + 4294967264) % 2 ^ 32 = _
    omega
  next => rfl

/-- What must not be touched by an uppercase form: the letters that are mapped, and the blanks. -/
def unsettledRuns : List CaseRun :=
  uppercaseRuns ++ uppercaseExpansions.map (fun entry => .single entry.1) ++
    blankRanges.map fun range => ⟨range.first, range.last, 1, 0⟩

/-- What uppercase forms consist of. -/
def imageRuns : List CaseRun :=
  uppercaseRuns ++ uppercaseExpansions.flatMap fun entry => entry.2.map .single

/-- The whole table at once: no uppercase form touches a letter that is mapped, or a blank. -/
theorem imageRuns_avoid :
    (imageRuns.all fun run => run.isProper && unsettledRuns.all run.avoids) = true := by
  decide +kernel

theorem isProper_of_mem_imageRuns {run : CaseRun} (hrun : run ∈ imageRuns) : run.isProper = true :=
  (Bool.and_eq_true_iff.1 (List.all_eq_true.1 imageRuns_avoid run hrun)).1

/-- A run that the table maps with maps to characters. -/
theorem toNat_ofNat_image {run : CaseRun} {code image : Nat} (hrun : run ∈ imageRuns)
    (h : run.map? code = some image) : (Char.ofNat image).toNat = image := by
  rw [Char.ofNat, dif_pos (CaseRun.isValidChar_image (isProper_of_mem_imageRuns hrun) h)]
  rfl

theorem mem_of_lookup_expansions {code : Nat} {codes : List Nat}
    (h : uppercaseExpansions.lookup code = some codes) : (code, codes) ∈ uppercaseExpansions := by
  obtain ⟨before, after, heq, -⟩ := List.lookup_eq_some_iff.1 h
  rw [heq]
  exact List.mem_append_right before List.mem_cons_self

/-- A character of an uppercase form is either the mapped character itself, which has no other, or
    one that a run maps to. -/
theorem mem_uppercaseChar {c d : Char} (h : d ∈ uppercaseChar c) :
    d = c ∧ uppercaseChar c = [c] ∨ ∃ run ∈ imageRuns, ∃ code, run.map? code = some d.toNat := by
  unfold uppercaseChar mapCase at h ⊢
  split at h
  next codes hlookup =>
    obtain ⟨code, hcode, rfl⟩ := List.mem_map.1 h
    have hrun : CaseRun.single code ∈ imageRuns :=
      List.mem_append_right _
        (List.mem_flatMap.2 ⟨_, mem_of_lookup_expansions hlookup, List.mem_map_of_mem hcode⟩)
    refine .inr ⟨_, hrun, code, ?_⟩
    rw [toNat_ofNat_image hrun CaseRun.map?_single]
    exact CaseRun.map?_single
  next =>
    split at h
    next code hfind =>
      obtain rfl := List.mem_singleton.1 h
      obtain ⟨run, hrun, hmap⟩ := List.exists_of_findSome?_eq_some hfind
      have hmem : run ∈ imageRuns := List.mem_append_left _ hrun
      exact .inr ⟨run, hmem, c.toNat, by rw [hmap, toNat_ofNat_image hmem hmap]⟩
    next => exact .inl ⟨List.mem_singleton.1 h, rfl⟩

/-- A character that no run of letters or blanks covers is its own uppercase form, and no blank. -/
theorem uppercaseChar_of_uncovered {c : Char} (h : ∀ run ∈ unsettledRuns, run.map? c.toNat = none) :
    uppercaseChar c = [c] ∧ isBlank c = false := by
  simp only [unsettledRuns, List.mem_append, or_imp, forall_and, List.forall_mem_map] at h
  obtain ⟨⟨hruns, hexpansions⟩, hblanks⟩ := h
  have hlookup : uppercaseExpansions.lookup c.toNat = none := by
    rw [List.lookup_eq_none_iff]
    intro entry hentry
    have hother : c.toNat ≠ entry.1 := by
      intro heq
      have hnone := hexpansions entry hentry
      rw [heq, CaseRun.map?_single] at hnone
      cases hnone
    simpa using hother
  refine ⟨?_, ?_⟩
  · simp only [uppercaseChar, mapCase, hlookup, List.findSome?_eq_none_iff.2 hruns]
  · rw [← Bool.not_eq_true]
    intro hblank
    obtain ⟨range, hrange, hfirst, hlast⟩ := within_iff.1 hblank
    have hnone := hblanks range hrange
    simp [CaseRun.map?, hfirst, hlast, Nat.mod_one] at hnone

/-- So is any character that a run maps to. -/
theorem uppercaseChar_of_image {run : CaseRun} {code : Nat} {d : Char} (hrun : run ∈ imageRuns)
    (h : run.map? code = some d.toNat) : uppercaseChar d = [d] ∧ isBlank d = false := by
  have havoids := (Bool.and_eq_true_iff.1 (List.all_eq_true.1 imageRuns_avoid run hrun)).2
  refine uppercaseChar_of_uncovered fun other hother => ?_
  exact CaseRun.map?_image_of_avoids (isProper_of_mem_imageRuns hrun)
    (List.all_eq_true.1 havoids other hother) h

/-- A character of an uppercase form is its own uppercase form. -/
theorem uppercaseChar_of_mem {c d : Char} (h : d ∈ uppercaseChar c) : uppercaseChar d = [d] := by
  obtain ⟨rfl, hown⟩ | ⟨run, hrun, code, hmap⟩ := mem_uppercaseChar h
  · exact hown
  · exact (uppercaseChar_of_image hrun hmap).1

/-- The uppercase form of a character that is no blank has no blanks. -/
theorem isBlank_of_mem_uppercaseChar {c d : Char} (hc : isBlank c = false)
    (h : d ∈ uppercaseChar c) : isBlank d = false := by
  obtain ⟨rfl, -⟩ | ⟨run, hrun, code, hmap⟩ := mem_uppercaseChar h
  · exact hc
  · exact (uppercaseChar_of_image hrun hmap).2

/-- A blank is its own uppercase form. -/
theorem uppercaseChar_of_isBlank {c : Char} (h : isBlank c = true) : uppercaseChar c = [c] := by
  have hblanks : ∀ range ∈ blankRanges,
      ∀ code ∈ List.range' range.first (range.last + 1 - range.first),
      uppercaseChar (Char.ofNat code) = [Char.ofNat code] := by
    decide +kernel
  obtain ⟨range, hrange, hfirst, hlast⟩ := within_iff.1 h
  have hown := hblanks range hrange c.toNat (List.mem_range'_1.2 (by omega))
  rwa [Char.ofNat_toNat] at hown

/-- In ASCII the uppercase form of a character is its capital letter. -/
theorem uppercaseChar_of_ascii {c : Char} (h : c.toNat < 128) : uppercaseChar c = [c.toUpper] := by
  have hexpansions : ∀ entry ∈ uppercaseExpansions, 128 ≤ entry.1 := by decide +kernel
  have hruns : ∀ run ∈ uppercaseRuns.tail, 128 ≤ run.first := by decide +kernel
  have hlookup : uppercaseExpansions.lookup c.toNat = none := by
    rw [List.lookup_eq_none_iff]
    intro entry hentry
    have hfar := hexpansions entry hentry
    exact bne_iff_ne.2 (by omega)
  have htail : uppercaseRuns.tail.findSome? (·.map? c.toNat) = none := by
    rw [List.findSome?_eq_none_iff]
    intro run hrun
    have hfar := hruns run hrun
    exact if_neg (by omega)
  -- Only the first run reaches into ASCII.
  have hfirst : uppercaseRuns = ⟨0x61, 0x7A, 1, -32⟩ :: uppercaseRuns.tail := rfl
  rw [← Char.ofNat_toNat (c := c.toUpper), toNat_toUpper, uppercaseChar, mapCase, hlookup, hfirst,
    List.findSome?_cons, htail]
  by_cases hsmall : 97 ≤ c.toNat ∧ c.toNat ≤ 122
  · have hmap : CaseRun.map? ⟨0x61, 0x7A, 1, -32⟩ c.toNat = some (c.toNat - 32) := by
      simp only [CaseRun.map?_eq_some_iff]
      omega
    rw [hmap, if_pos hsmall]
  · have hmap : CaseRun.map? ⟨0x61, 0x7A, 1, -32⟩ c.toNat = none :=
      if_neg fun hcovered => hsmall ⟨hcovered.1, hcovered.2.1⟩
    rw [hmap, if_neg hsmall, Char.ofNat_toNat]

/-- The case of an ASCII letter has no say in its uppercase form. -/
theorem uppercaseChar_toLower (c : Char) : uppercaseChar c.toLower = uppercaseChar c := by
  by_cases hcapital : 65 ≤ c.toNat ∧ c.toNat ≤ 90
  · have hcode := toNat_toLower c
    rw [if_pos hcapital] at hcode
    have hsame : c.toLower.toUpper = c.toUpper := by
      rw [← Char.toNat_inj, toNat_toUpper, toNat_toUpper, hcode, if_pos (by omega),
        if_neg (by omega), Nat.add_sub_cancel]
    rw [uppercaseChar_of_ascii (by omega), uppercaseChar_of_ascii (by omega), hsame]
  · have hsame : c.toLower = c := by
      rw [← Char.toNat_inj, toNat_toLower, if_neg hcapital]
    rw [hsame]

/-- No uppercase form has a small letter of ASCII. -/
theorem isLower_of_mem_uppercaseChar {c d : Char} (h : d ∈ uppercaseChar c) :
    d.isLower = false := by
  rw [← Bool.not_eq_true, isLower_iff]
  intro hsmall
  have hown := uppercaseChar_of_mem h
  rw [uppercaseChar_of_ascii (by omega), List.cons.injEq, ← Char.toNat_inj, toNat_toUpper,
    if_pos hsmall] at hown
  omega

/-- Every character has an uppercase form. -/
theorem uppercaseChar_ne_nil (c : Char) : uppercaseChar c ≠ [] := by
  have hexpansions : (uppercaseExpansions.all fun entry => !entry.2.isEmpty) = true := by
    decide +kernel
  unfold uppercaseChar mapCase
  split
  next codes hlookup =>
    have hcodes := List.all_eq_true.1 hexpansions _ (mem_of_lookup_expansions hlookup)
    simpa using hcodes
  next => split <;> exact List.cons_ne_nil _ []

/-- Characters that are their own uppercase forms stay as they are. -/
theorem flatMap_uppercaseChar_eq_self {cs : List Char} (h : ∀ c ∈ cs, uppercaseChar c = [c]) :
    cs.flatMap uppercaseChar = cs := by
  rw [List.flatMap_congr h, List.flatMap_singleton']

/-- An uppercase text is its own uppercase form. -/
theorem uppercase_uppercase (text : String) : uppercase (uppercase text) = uppercase text := by
  rw [uppercase, uppercase, String.toList_ofList]
  refine congrArg String.ofList (flatMap_uppercaseChar_eq_self fun d hd => ?_)
  obtain ⟨c, -, hmem⟩ := List.mem_flatMap.1 hd
  exact uppercaseChar_of_mem hmem

end FeeOracle.Text
