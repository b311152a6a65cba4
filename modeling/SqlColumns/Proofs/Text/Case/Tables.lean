import SqlColumns.Text.Case.Tables

/-!
# Runs of the case tables

What the case tables have in common is checked run by run, not code point by code point: where a run
moves its code points to is out of reach of the runs that could move them again.
-/

set_option autoImplicit false

namespace SqlColumns.Text

namespace CaseRun

def Moves (run : CaseRun) (code : Nat) : Prop :=
  run.first ≤ code ∧ code ≤ run.last ∧ (code - run.first) % run.stride = 0

def Image (runs : List CaseRun) (code : Nat) : Prop :=
  ∃ run ∈ runs, ∃ origin, run.Moves origin ∧ code = run.image + (origin - run.first)

theorem apply_cases (runs : List CaseRun) (code : Nat) :
    apply runs code = code ∨
      ∃ run ∈ runs, run.Moves code ∧ apply runs code = run.image + (code - run.first) := by
  induction runs with
  | nil => exact .inl rfl
  | cons run runs ih =>
      have later : apply runs code = code ∨ ∃ other ∈ run :: runs,
          other.Moves code ∧ apply runs code = other.image + (code - other.first) := by
        rcases ih with same | ⟨other, member, moves, image⟩
        · exact .inl same
        · exact .inr ⟨other, List.mem_cons_of_mem _ member, moves, image⟩
      unfold apply
      split
      · exact .inl rfl
      · next above =>
          split
          · next below =>
              split
              · next even =>
                  exact .inr ⟨run, List.mem_cons_self, ⟨Nat.not_lt.mp above, below, even⟩, rfl⟩
              · exact later
          · exact later

theorem apply_eq_self {runs : List CaseRun} {code : Nat}
    (still : ∀ run ∈ runs, ¬ run.Moves code) : apply runs code = code := by
  rcases apply_cases runs code with same | ⟨run, member, moves, -⟩
  · exact same
  · exact absurd moves (still run member)

theorem apply_eq_self_or_image (runs : List CaseRun) (code : Nat) :
    apply runs code = code ∨ Image runs (apply runs code) := by
  rcases apply_cases runs code with same | ⟨run, member, moves, image⟩
  · exact .inl same
  · exact .inr ⟨run, member, code, moves, image⟩

def top (run : CaseRun) : Nat :=
  run.image + (run.last - run.first)

/-- No image of the run is moved by the other one: it lies below it, above it, or between its
strides. -/
def clears (run other : CaseRun) : Bool :=
  Nat.blt run.top other.first || Nat.blt other.last run.image ||
    (Nat.beq other.stride 2 && (Nat.beq run.stride 2 || Nat.beq run.first run.last) &&
      Nat.beq ((run.image + other.first) % 2) 1)

theorem not_moves_of_clears {run other : CaseRun} (clear : run.clears other = true) {code : Nat}
    (moves : run.Moves code) : ¬ other.Moves (run.image + (code - run.first)) := by
  obtain ⟨above, below, even⟩ := moves
  rintro ⟨otherAbove, otherBelow, otherEven⟩
  simp only [clears, top, Bool.or_eq_true, Bool.and_eq_true, Nat.blt_eq, Nat.beq_eq] at clear
  rcases clear with (under | beyond) | ⟨⟨two, stride⟩, odd⟩
  · omega
  · omega
  · rw [two] at otherEven
    rcases stride with twoToo | single
    · rw [twoToo] at even
      omega
    · omega

theorem apply_of_image {runs others : List CaseRun}
    (clear : (runs.all fun run => others.all run.clears) = true) {code : Nat}
    (image : Image runs code) : apply others code = code := by
  obtain ⟨run, member, origin, moves, rfl⟩ := image
  refine apply_eq_self fun other otherMember => not_moves_of_clears ?_ moves
  exact List.all_eq_true.mp (List.all_eq_true.mp clear run member) other otherMember

end CaseRun

/-!
## Lower-casing and folding code points
-/

def lowerCode (code : Nat) : Nat :=
  CaseRun.apply unfoldedRuns (CaseRun.apply lowerRuns code)

def foldCode (code : Nat) : Nat :=
  CaseRun.apply variantRuns (CaseRun.apply lowerRuns code)

def loweringRuns : List CaseRun :=
  lowerRuns ++ unfoldedRuns

def ownCodes : List Nat :=
  [0x0A, 0x20, 0x130, 0x307]

def CaseRun.apart (run other : CaseRun) : Bool :=
  Nat.blt run.last other.first || Nat.blt other.last run.first

def CaseRun.misses (run : CaseRun) (code : Nat) : Bool :=
  Nat.blt code run.image || Nat.blt run.top code

def CaseRun.imagesApart (run other : CaseRun) : Bool :=
  Nat.blt run.top other.image || Nat.blt other.top run.image

def CaseRun.imagesValid (run : CaseRun) : Bool :=
  Nat.blt run.top 0xD800 || (Nat.blt 0xDFFF run.image && Nat.blt run.top 0x110000)

/-- The table is evaluated once, for everything that is needed of it. -/
private theorem tables_checked :
    (loweringRuns.all fun run => loweringRuns.all run.clears) = true ∧
    (unfoldedRuns.all fun run => variantRuns.all run.clears) = true ∧
    (variantRuns.all fun run => unfoldedRuns.all run.clears) = true ∧
    (unfoldedRuns.all fun run => (lowerRuns ++ variantRuns).all run.apart) = true ∧
    ((loweringRuns ++ variantRuns).all fun run => ownCodes.all run.misses) = true ∧
    ((unfoldedRuns ++ variantRuns).all fun run => run.misses 0x69) = true ∧
    (lowerRuns.all fun run => run.misses 0x69 || Nat.beq run.image (run.first + 0x20)) = true ∧
    ((lowerRuns ++ variantRuns).all fun run => unfoldedRuns.all run.imagesApart) = true ∧
    ((loweringRuns ++ variantRuns).all CaseRun.imagesValid) = true := by
  decide +kernel

private theorem loweringRuns_clear :
    (loweringRuns.all fun run => loweringRuns.all run.clears) = true :=
  tables_checked.1

private theorem unfoldedRuns_clear :
    (unfoldedRuns.all fun run => variantRuns.all run.clears) = true :=
  tables_checked.2.1

private theorem variantRuns_clear :
    (variantRuns.all fun run => unfoldedRuns.all run.clears) = true :=
  tables_checked.2.2.1

private theorem unfoldedRuns_apart :
    (unfoldedRuns.all fun run => (lowerRuns ++ variantRuns).all run.apart) = true :=
  tables_checked.2.2.2.1

private theorem ownCodes_missed :
    ((loweringRuns ++ variantRuns).all fun run => ownCodes.all run.misses) = true :=
  tables_checked.2.2.2.2.1

private theorem letterI_missed :
    ((unfoldedRuns ++ variantRuns).all fun run => run.misses 0x69) = true ∧
    (lowerRuns.all fun run => run.misses 0x69 || Nat.beq run.image (run.first + 0x20)) = true :=
  ⟨tables_checked.2.2.2.2.2.1, tables_checked.2.2.2.2.2.2.1⟩

private theorem unfoldedRuns_missed :
    ((lowerRuns ++ variantRuns).all fun run => unfoldedRuns.all run.imagesApart) = true :=
  tables_checked.2.2.2.2.2.2.2.1

private theorem runs_valid :
    ((loweringRuns ++ variantRuns).all CaseRun.imagesValid) = true :=
  tables_checked.2.2.2.2.2.2.2.2

/-- What a run that folding does not share moves, no other run does. -/
theorem not_moves_of_unfolded {run other : CaseRun} (member : run ∈ unfoldedRuns)
    (otherMember : other ∈ lowerRuns ++ variantRuns) {code : Nat} (moves : run.Moves code) :
    ¬ other.Moves code := by
  have apart := List.all_eq_true.mp
    (List.all_eq_true.mp unfoldedRuns_apart run member) other otherMember
  simp only [CaseRun.apart, Bool.or_eq_true, Nat.blt_eq] at apart
  obtain ⟨above, below, -⟩ := moves
  rintro ⟨otherAbove, otherBelow, -⟩
  omega

theorem CaseRun.Image.mono {runs others : List CaseRun} (part : ∀ run ∈ runs, run ∈ others)
    {code : Nat} (image : Image runs code) : Image others code := by
  obtain ⟨run, member, origin⟩ := image
  exact ⟨run, part run member, origin⟩

theorem not_moves_of_loweringImage {code : Nat} (image : CaseRun.Image loweringRuns code)
    {run : CaseRun} (member : run ∈ loweringRuns) : ¬ run.Moves code := by
  obtain ⟨other, otherMember, origin, moves, rfl⟩ := image
  exact CaseRun.not_moves_of_clears
    (List.all_eq_true.mp (List.all_eq_true.mp loweringRuns_clear other otherMember) run member)
    moves

theorem apply_of_loweringImage {code : Nat} (image : CaseRun.Image loweringRuns code) :
    CaseRun.apply lowerRuns code = code ∧ CaseRun.apply unfoldedRuns code = code :=
  ⟨CaseRun.apply_eq_self fun _ member =>
      not_moves_of_loweringImage image (List.mem_append_left _ member),
    CaseRun.apply_eq_self fun _ member =>
      not_moves_of_loweringImage image (List.mem_append_right _ member)⟩

/-- What lower-casing and folding a code point can come to: it has a lower-case form that folding
shares, or one that folding does not share, or none. -/
theorem lowerCode_cases (code : Nat) :
    (CaseRun.Image lowerRuns (lowerCode code) ∧
      foldCode code = CaseRun.apply variantRuns (lowerCode code)) ∨
    (CaseRun.Image unfoldedRuns (lowerCode code) ∧ foldCode code = code ∧
      CaseRun.apply unfoldedRuns code = lowerCode code) ∨
    (lowerCode code = code ∧ CaseRun.apply lowerRuns code = code ∧
      CaseRun.apply unfoldedRuns code = code ∧
      foldCode code = CaseRun.apply variantRuns code) := by
  rcases CaseRun.apply_eq_self_or_image lowerRuns code with same | image
  · rcases CaseRun.apply_cases unfoldedRuns code with still | ⟨run, member, moves, moved⟩
    · exact .inr (.inr ⟨by rw [lowerCode, same, still], same, still, by rw [foldCode, same]⟩)
    · have lowered : lowerCode code = CaseRun.apply unfoldedRuns code := by rw [lowerCode, same]
      refine .inr (.inl ⟨⟨run, member, code, moves, lowered.trans moved⟩, ?_, lowered.symm⟩)
      rw [foldCode, same]
      exact CaseRun.apply_eq_self fun other otherMember =>
        not_moves_of_unfolded member (List.mem_append_right _ otherMember) moves
  · have lowered : lowerCode code = CaseRun.apply lowerRuns code :=
      (apply_of_loweringImage (image.mono fun _ => List.mem_append_left _)).2
    exact .inl ⟨lowered ▸ image, by rw [foldCode, lowered]⟩

theorem lowerCode_lowerCode (code : Nat) : lowerCode (lowerCode code) = lowerCode code := by
  have settled : ∀ {other}, CaseRun.Image loweringRuns other → lowerCode other = other := by
    intro other image
    obtain ⟨lower, unfolded⟩ := apply_of_loweringImage image
    rw [lowerCode, lower, unfolded]
  rcases lowerCode_cases code with ⟨image, -⟩ | ⟨image, -⟩ | ⟨same, -⟩
  · exact settled (image.mono fun _ => List.mem_append_left _)
  · exact settled (image.mono fun _ => List.mem_append_right _)
  · rw [same, same]

/-- Folding a lower-case form is lower-casing a folded form, as far as folding has left it. -/
theorem foldCode_lowerCode (code : Nat) :
    foldCode (lowerCode code) = CaseRun.apply unfoldedRuns (foldCode code) := by
  have variant : ∀ {other}, CaseRun.apply unfoldedRuns other = other →
      CaseRun.apply unfoldedRuns (CaseRun.apply variantRuns other) =
        CaseRun.apply variantRuns other := by
    intro other still
    rcases CaseRun.apply_eq_self_or_image variantRuns other with same | image
    · rw [same, still]
    · exact CaseRun.apply_of_image variantRuns_clear image
  rcases lowerCode_cases code with ⟨image, folded⟩ | ⟨image, folded, moved⟩ | ⟨same, lower, still, folded⟩
  · obtain ⟨lower, unfolded⟩ := apply_of_loweringImage (image.mono fun _ => List.mem_append_left _)
    rw [folded, variant unfolded, foldCode, lower]
  · obtain ⟨lower, -⟩ := apply_of_loweringImage (image.mono fun _ => List.mem_append_right _)
    rw [folded, moved, foldCode, lower, CaseRun.apply_of_image unfoldedRuns_clear image]
  · rw [same, folded, variant still]

/-!
## Code points that nothing else becomes
-/

theorem CaseRun.ne_of_misses {run : CaseRun} {code image : Nat} (missed : run.misses code = true)
    (moved : ∃ origin, run.Moves origin ∧ image = run.image + (origin - run.first)) :
    image ≠ code := by
  obtain ⟨origin, ⟨above, below, -⟩, rfl⟩ := moved
  simp only [misses, top, Bool.or_eq_true, Nat.blt_eq] at missed
  omega

theorem eq_of_apply_eq {runs : List CaseRun} {own : Nat}
    (missed : ∀ run ∈ runs, run.misses own = true) {code : Nat}
    (result : CaseRun.apply runs code = own) : code = own := by
  rcases CaseRun.apply_eq_self_or_image runs code with same | ⟨run, member, moved⟩
  · exact same.symm.trans result
  · exact absurd result (CaseRun.ne_of_misses (missed run member) moved)

private theorem misses_of_own {own : Nat} (member : own ∈ ownCodes) :
    ∀ run ∈ loweringRuns ++ variantRuns, run.misses own = true := fun run inside =>
  List.all_eq_true.mp (List.all_eq_true.mp ownCodes_missed run inside) own member

theorem eq_of_lowerCode_eq {own code : Nat} (member : own ∈ ownCodes)
    (result : lowerCode code = own) : code = own := by
  have missed := misses_of_own member
  have lower := eq_of_apply_eq (fun run inside => missed run
    (List.mem_append_left _ (List.mem_append_right _ inside))) result
  exact eq_of_apply_eq (fun run inside => missed run
    (List.mem_append_left _ (List.mem_append_left _ inside))) lower

theorem eq_of_foldCode_eq {own code : Nat} (member : own ∈ ownCodes)
    (result : foldCode code = own) : code = own := by
  have missed := misses_of_own member
  have lower := eq_of_apply_eq (fun run inside => missed run
    (List.mem_append_right _ inside)) result
  exact eq_of_apply_eq (fun run inside => missed run
    (List.mem_append_left _ (List.mem_append_left _ inside))) lower

/-- The small letter i is the folded form of itself and of the capital letter I alone. -/
theorem eq_of_foldCode_eq_letterI {code : Nat} (result : foldCode code = 0x69) :
    code = 0x69 ∨ code = 0x49 := by
  have lower : CaseRun.apply lowerRuns code = 0x69 :=
    eq_of_apply_eq (fun run member => List.all_eq_true.mp letterI_missed.1 run
      (List.mem_append_right _ member)) result
  rcases CaseRun.apply_cases lowerRuns code with same | ⟨run, member, moves, image⟩
  · exact .inl (same.symm.trans lower)
  · have reached := List.all_eq_true.mp letterI_missed.2 run member
    rw [Bool.or_eq_true] at reached
    rcases reached with missed | shift
    · exact absurd (image.symm.trans lower) (CaseRun.ne_of_misses missed ⟨code, moves, rfl⟩)
    · obtain ⟨above, -, -⟩ := moves
      have shifted : run.image = run.first + 0x20 := Nat.eq_of_beq_eq_true shift
      omega

theorem eq_of_foldCode_lowerCode_eq_letterI {code : Nat}
    (result : foldCode (lowerCode code) = 0x69) : code = 0x69 ∨ code = 0x49 := by
  rw [foldCode_lowerCode] at result
  exact eq_of_foldCode_eq_letterI (eq_of_apply_eq (fun run member =>
    List.all_eq_true.mp letterI_missed.1 run (List.mem_append_left _ member)) result)

/-!
## Code points that only folding keeps apart
-/

def CaseRun.Hits (run : CaseRun) (code : Nat) : Prop :=
  run.first ≤ run.last ∧ run.image ≤ code ∧ code ≤ run.top ∧
    (code - run.image) % run.stride = 0

instance (run : CaseRun) (code : Nat) : Decidable (run.Hits code) :=
  inferInstanceAs (Decidable (_ ∧ _))

theorem CaseRun.image_iff_hits {runs : List CaseRun} {code : Nat} :
    Image runs code ↔ ∃ run ∈ runs, run.Hits code := by
  constructor
  · rintro ⟨run, member, origin, ⟨above, below, even⟩, rfl⟩
    refine ⟨run, member, by omega, by omega, ?_, ?_⟩
    · rw [top]
      omega
    · rw [Nat.add_sub_cancel_left]
      exact even
  · rintro ⟨run, member, ordered, above, below, even⟩
    rw [top] at below
    refine ⟨run, member, run.first + (code - run.image), ⟨by omega, by omega, ?_⟩, by omega⟩
    rw [Nat.add_sub_cancel_left]
    exact even

/-- A code point that lower-casing moves and folding does not, or one that it is moved to. -/
def SplitCode (code : Nat) : Prop :=
  CaseRun.apply unfoldedRuns code ≠ code ∨ ∃ run ∈ unfoldedRuns, run.Hits code

instance (code : Nat) : Decidable (SplitCode code) :=
  inferInstanceAs (Decidable (_ ∨ _))

theorem foldCode_of_unfolded {code : Nat} (moved : CaseRun.apply unfoldedRuns code ≠ code) :
    foldCode code = code ∧ lowerCode code = CaseRun.apply unfoldedRuns code := by
  rcases CaseRun.apply_cases unfoldedRuns code with same | ⟨run, member, moves, -⟩
  · exact absurd same moved
  · have still : ∀ other ∈ lowerRuns ++ variantRuns, ¬ other.Moves code := fun other inside =>
      not_moves_of_unfolded member inside moves
    have lower := CaseRun.apply_eq_self fun other inside =>
      still other (List.mem_append_left _ inside)
    have variant := CaseRun.apply_eq_self fun other inside =>
      still other (List.mem_append_right _ inside)
    exact ⟨by rw [foldCode, lower, variant], by rw [lowerCode, lower]⟩

/-- Other code points fold alike before and after lower-casing. -/
theorem foldCode_lowerCode_of_still {code : Nat} (still : CaseRun.apply unfoldedRuns code = code) :
    foldCode (lowerCode code) = foldCode code := by
  rcases lowerCode_cases code with ⟨image, folded⟩ | ⟨-, folded, moved⟩ | ⟨same, -⟩
  · obtain ⟨lower, -⟩ := apply_of_loweringImage (image.mono fun _ => List.mem_append_left _)
    rw [folded, foldCode, lower]
  · rw [← moved, still]
  · rw [same]

private theorem unfoldedRuns_first :
    (unfoldedRuns.all fun run => (List.range (run.last + 1 - run.first)).all fun offset =>
      !Nat.beq (offset % run.stride) 0 ||
        Nat.beq (CaseRun.apply unfoldedRuns (run.first + offset)) (run.image + offset)) = true := by
  decide

/-- A lower-case form that folding does not share is the folded form of itself alone. -/
theorem eq_of_foldCode_eq_image {image code : Nat} (hit : CaseRun.Image unfoldedRuns image)
    (result : foldCode code = image) : code = image := by
  obtain ⟨other, otherMember, hits⟩ := CaseRun.image_iff_hits.mp hit
  obtain ⟨-, above, below, -⟩ := hits
  have missed : ∀ run ∈ lowerRuns ++ variantRuns, run.misses image = true := by
    intro run member
    have apart := List.all_eq_true.mp
      (List.all_eq_true.mp unfoldedRuns_missed run member) other otherMember
    simp only [CaseRun.imagesApart, Bool.or_eq_true, Nat.blt_eq] at apart
    simp only [CaseRun.misses, Bool.or_eq_true, Nat.blt_eq]
    omega
  have lower := eq_of_apply_eq (fun run member => missed run
    (List.mem_append_right _ member)) result
  exact eq_of_apply_eq (fun run member => missed run (List.mem_append_left _ member)) lower

private theorem unfoldedRuns_valid :
    (unfoldedRuns.all fun run => Nat.blt run.last 0xD800 ||
      (Nat.blt 0xDFFF run.first && Nat.blt run.last 0x110000)) = true := by
  decide

/-- Every such form comes from another character that the same runs move. -/
theorem exists_of_unfoldedImage {image : Nat} (hit : CaseRun.Image unfoldedRuns image) :
    ∃ code, CaseRun.apply unfoldedRuns code = image ∧ code ≠ image ∧ code.isValidChar := by
  have settled : CaseRun.Image loweringRuns image := hit.mono fun _ => List.mem_append_right _
  obtain ⟨run, member, code, moves, moved⟩ := hit
  refine ⟨code, ?_, ?_, ?_⟩
  · obtain ⟨above, below, even⟩ := moves
    have first := List.all_eq_true.mp
      (List.all_eq_true.mp unfoldedRuns_first run member) (code - run.first)
      (List.mem_range.mpr (by omega))
    rw [even, Nat.add_sub_cancel' above] at first
    rw [moved]
    exact Nat.eq_of_beq_eq_true (by simpa using first)
  · rintro rfl
    exact not_moves_of_loweringImage settled (List.mem_append_right _ member) moves
  · obtain ⟨above, below, -⟩ := moves
    have valid := List.all_eq_true.mp unfoldedRuns_valid run member
    simp only [Bool.or_eq_true, Bool.and_eq_true, Nat.blt_eq] at valid
    rw [Nat.isValidChar]
    omega

private theorem unfoldedRuns_beyond_ascii :
    ∀ run ∈ unfoldedRuns, 0x80 ≤ run.first ∧ 0x80 ≤ run.image := by
  decide

theorem ascii_not_split {code : Nat} (ascii : code < 0x80) : ¬ SplitCode code := by
  rintro (moved | ⟨run, member, -, above, -⟩)
  · refine moved (CaseRun.apply_eq_self fun run member moves => ?_)
    have beyond := (unfoldedRuns_beyond_ascii run member).1
    exact absurd (Nat.lt_of_lt_of_le ascii (Nat.le_trans beyond moves.1)) (Nat.lt_irrefl _)
  · have beyond := (unfoldedRuns_beyond_ascii run member).2
    exact absurd (Nat.lt_of_lt_of_le ascii (Nat.le_trans beyond above)) (Nat.lt_irrefl _)

/-!
## Code points that become ASCII
-/

/-- The run moves nothing from beyond ASCII into it, or else moves one code point alone, which is
among the exceptions. -/
def CaseRun.sparesAscii (exceptions : List Nat) (run : CaseRun) : Bool :=
  Nat.blt run.last 0x80 || Nat.ble 0x80 run.image ||
    (Nat.beq run.first run.last && exceptions.contains run.first)

private theorem ascii_checked :
    (lowerRuns.all fun run => run.sparesAscii [0x212A]) = true ∧
    (variantRuns.all fun run => run.sparesAscii [0x17F]) = true ∧
    (lowerRuns.all fun run => run.misses 0x17F) = true := by
  decide +kernel

theorem ascii_of_apply {runs : List CaseRun} {exceptions : List Nat}
    (spared : (runs.all fun run => run.sparesAscii exceptions) = true) {code : Nat}
    (ascii : CaseRun.apply runs code < 0x80) : code < 0x80 ∨ code ∈ exceptions := by
  rcases CaseRun.apply_cases runs code with same | ⟨run, member, ⟨above, below, -⟩, image⟩
  · exact .inl (same ▸ ascii)
  · have checked := List.all_eq_true.mp spared run member
    simp only [CaseRun.sparesAscii, Bool.or_eq_true, Bool.and_eq_true, Nat.blt_eq, Nat.ble_eq,
      Nat.beq_eq, List.contains_iff_mem] at checked
    rcases checked with (under | beyond) | ⟨single, listed⟩
    · exact .inl (Nat.lt_of_le_of_lt below under)
    · omega
    · obtain rfl : code = run.first := by omega
      exact .inr listed

/-- Beyond ASCII, the Kelvin sign and the long s alone fold to ASCII. -/
theorem ascii_of_foldCode {code : Nat} (ascii : foldCode code < 0x80) :
    code < 0x80 ∨ code = 0x212A ∨ code = 0x17F := by
  obtain ⟨lower, variant, missed⟩ := ascii_checked
  rcases ascii_of_apply variant ascii with small | longS
  · rcases ascii_of_apply lower small with own | kelvin
    · exact .inl own
    · exact .inr (.inl (List.mem_singleton.mp kelvin))
  · exact .inr (.inr (eq_of_apply_eq (List.all_eq_true.mp missed) (List.mem_singleton.mp longS)))

/-!
## Forms of characters are characters
-/

theorem isValidChar_apply {runs : List CaseRun} (valid : ∀ run ∈ runs, run.imagesValid = true)
    {code : Nat} (char : code.isValidChar) : (CaseRun.apply runs code).isValidChar := by
  rcases CaseRun.apply_cases runs code with same | ⟨run, member, ⟨above, below, -⟩, image⟩
  · rw [same]
    exact char
  · have inside := valid run member
    simp only [CaseRun.imagesValid, CaseRun.top, Bool.or_eq_true, Bool.and_eq_true, Nat.blt_eq] at inside
    rw [image, Nat.isValidChar]
    omega

theorem isValidChar_lowerCode {code : Nat} (char : code.isValidChar) :
    (lowerCode code).isValidChar := by
  have valid := List.all_eq_true.mp runs_valid
  exact isValidChar_apply
    (fun run member => valid run (List.mem_append_left _ (List.mem_append_right _ member)))
    (isValidChar_apply
      (fun run member => valid run (List.mem_append_left _ (List.mem_append_left _ member))) char)

theorem isValidChar_foldCode {code : Nat} (char : code.isValidChar) :
    (foldCode code).isValidChar := by
  have valid := List.all_eq_true.mp runs_valid
  exact isValidChar_apply (fun run member => valid run (List.mem_append_right _ member))
    (isValidChar_apply
      (fun run member => valid run (List.mem_append_left _ (List.mem_append_left _ member))) char)

end SqlColumns.Text
