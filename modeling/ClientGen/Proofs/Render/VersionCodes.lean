import ClientGen.Proofs.Json.Compact
import ClientGen.Render.Root
/-!
# Numbers of versions

The descriptor of a plugin holds one number for the version. It has two decimal places each for
minor and patch, so it grows with the version as long as both fit their places and the whole fits
sixty-four bits; beyond that a later version may have the same number, or a lower one.
-/
namespace ClientGen.Version

/-- Whether a version comes before another one by its three numbers. -/
def Precedes (v w : Version) : Prop :=
  v.major < w.major ∨ v.major = w.major ∧
    (v.minor < w.minor ∨ v.minor = w.minor ∧ v.patch < w.patch)

instance (v w : Version) : Decidable (v.Precedes w) := inferInstanceAs (Decidable (_ ∨ _))

/-- The number of a version before it is cut to sixty-four bits. -/
def fullCode (v : Version) : Nat := v.major.toNat * 10000 + v.minor.toNat * 100 + v.patch.toNat

section

variable {v w : Version}

theorem toNat_code (v : Version) : v.code.toNat = v.fullCode % Text.wordCount := by
  have hhundred : (100 : UInt64).toNat = 100 := rfl
  have hlarge : (10000 : UInt64).toNat = 10000 := rfl
  rw [code, UInt64.toNat_add, UInt64.toNat_add, UInt64.toNat_mul, UInt64.toNat_mul, hhundred,
    hlarge, fullCode, Text.wordCount]
  omega

theorem code_lt_iff (hv : v.fullCode < Text.wordCount) (hw : w.fullCode < Text.wordCount) :
    v.code < w.code ↔ v.fullCode < w.fullCode := by
  rw [UInt64.lt_iff_toNat_lt, toNat_code, toNat_code, Nat.mod_eq_of_lt hv, Nat.mod_eq_of_lt hw]

theorem precedes_iff : v.Precedes w ↔ v.major.toNat < w.major.toNat ∨
    v.major.toNat = w.major.toNat ∧ (v.minor.toNat < w.minor.toNat ∨
      v.minor.toNat = w.minor.toNat ∧ v.patch.toNat < w.patch.toNat) := by
  simp only [Precedes, UInt64.lt_iff_toNat_lt, UInt64.toNat_inj]

/-- Two places each are enough for a number that grows. -/
theorem fullCode_lt_of_precedes (h : v.Precedes w) (hminor : v.minor < 100)
    (hpatch : v.patch < 100) : v.fullCode < w.fullCode := by
  rw [precedes_iff] at h
  have hminor : v.minor.toNat < 100 := UInt64.lt_iff_toNat_lt.mp hminor
  have hpatch : v.patch.toNat < 100 := UInt64.lt_iff_toNat_lt.mp hpatch
  unfold fullCode
  omega

/-- What does not fit its places is carried, and the next version has no greater number. -/
theorem exists_fullCode_le (hfits : v.fullCode < Text.wordCount)
    (h : ¬ (v.minor < 100 ∧ v.patch < 100)) : ∃ major minor : UInt64,
      v.Precedes ⟨major, minor, 0, "", ""⟩ ∧
      fullCode ⟨major, minor, 0, "", ""⟩ ≤ v.fullCode := by
  have hzero : (0 : UInt64).toNat = 0 := rfl
  have hhundred : (100 : UInt64).toNat = 100 := rfl
  simp only [precedes_iff, fullCode, Text.wordCount, UInt64.lt_iff_toNat_lt, hhundred,
    hzero] at h hfits ⊢
  have hnext (n : UInt64) (hn : n.toNat + 1 < 2 ^ 64) : (n + 1).toNat = n.toNat + 1 := by
    rw [UInt64.toNat_add]
    exact Nat.mod_eq_of_lt hn
  by_cases hminor : v.minor.toNat < 100
  · refine ⟨v.major, v.minor + 1, ?_, ?_⟩ <;> rw [hnext v.minor (by omega)] <;> omega
  · refine ⟨v.major + 1, 0, ?_, ?_⟩ <;> rw [hnext v.major (by omega)] <;> omega

/-! ### Texts of versions -/

theorem isDigits_repr (n : Nat) : Json.IsDigits n.repr.toList := by
  rw [Nat.repr_eq_ofList_toDigits, String.toList_ofList]
  exact Json.isDigits_toDigits n

/-- A number ends where its digits do. -/
theorem splitDigits (n : Nat) {rest : List Char} (h : rest.takeWhile Text.isDigit = []) :
    (n.repr.toList ++ rest).takeWhile Text.isDigit = n.repr.toList ∧
      (n.repr.toList ++ rest).dropWhile Text.isDigit = rest := by
  have hrest : rest.dropWhile Text.isDigit = rest := by
    have happend := List.takeWhile_append_dropWhile (p := Text.isDigit) (l := rest)
    rwa [h, List.nil_append] at happend
  rw [List.takeWhile_append_of_pos (isDigits_repr n).2,
    List.dropWhile_append_of_pos (isDigits_repr n).2, h, hrest, List.append_nil]
  exact ⟨rfl, rfl⟩

theorem readSegment_repr (n : Nat) {rest : List Char} (h : rest.takeWhile Text.isDigit = []) :
    readSegment ('.' :: (n.repr.toList ++ rest)) = (some n.repr.toList, rest) := by
  obtain ⟨htake, hdrop⟩ := splitDigits n h
  rw [readSegment, htake, hdrop, List.isEmpty_eq_false_iff.mpr (isDigits_repr n).1]
  rfl

theorem segmentValue_repr (n : UInt64) : segmentValue n.toNat.repr.toList = .ok n := by
  have hfits : n.toNat < Text.wordCount := n.toNat_lt
  rw [segmentValue, Json.decimalValue_repr, if_pos hfits, UInt64.ofNat_toNat]

/-- Three numbers with stops between them are read as they are. -/
theorem parse_core (v : Version) : parse v.core = .ok ⟨v.major, v.minor, v.patch, "", ""⟩ := by
  have htext : v.core.toList = v.major.toNat.repr.toList ++
      '.' :: (v.minor.toNat.repr.toList ++ '.' :: (v.patch.toNat.repr.toList ++ [])) := by
    simp [core]
  have hstop (rest : List Char) : ('.' :: rest).takeWhile Text.isDigit = [] :=
    List.takeWhile_cons_of_neg (by decide)
  obtain ⟨hmajor, hminor⟩ := splitDigits v.major.toNat
    (hstop (v.minor.toNat.repr.toList ++ '.' :: (v.patch.toNat.repr.toList ++ [])))
  unfold parse
  rw [htext]
  split
  · rename_i rest heq
    obtain ⟨c, cs, hcs⟩ := List.exists_cons_of_ne_nil (isDigits_repr v.major.toNat).1
    have hc := (isDigits_repr v.major.toNat).2 c (hcs ▸ List.mem_cons_self)
    rw [hcs, List.cons_append, List.cons.injEq] at heq
    rw [heq.1] at hc
    exact absurd hc (by decide)
  · have hlabels : readLabels [] = some ([], []) := rfl
    have hsome : v.major.toNat.repr.toList.isEmpty = false :=
      List.isEmpty_eq_false_iff.mpr (isDigits_repr v.major.toNat).1
    dsimp only
    rw [hmajor, hminor, hsome, readSegment_repr v.minor.toNat (hstop _)]
    dsimp only
    rw [readSegment_repr v.patch.toNat rfl]
    dsimp only
    rw [hlabels]
    dsimp only
    rw [Option.getD_some, Option.getD_some, segmentValue_repr, segmentValue_repr,
      segmentValue_repr]
    rfl

end

end ClientGen.Version

namespace ClientGen.Render

open ClientGen.Idl

/-- The line of a descriptor that tells the number of the version. -/
def versionLine (n : Nat) : String := "\t\"Version\": " ++ n.repr ++ ","

theorem versionLine_injective {n n' : Nat} (h : versionLine n = versionLine n') : n = n' := by
  have hrepr : n.repr = n'.repr := by
    rw [versionLine, versionLine] at h
    exact String.append_right_inj _ |>.mp (String.append_left_inj _ |>.mp h)
  have hvalue := congrArg (fun text => Text.decimalValue text.toList) hrepr
  simpa only [Json.decimalValue_repr] using hvalue

/-- A descriptor has one such line. -/
theorem versionLine_mem_iff (m : ModuleInfo) (n : Nat) :
    versionLine n ∈ m.unrealPlugin ↔ n = m.version.code.toNat := by
  constructor
  · intro h
    have hstart (n : Nat) : (versionLine n).toList.take 11 = "\t\"Version\":".toList := by
      simp [versionLine]
    have hlines : m.unrealPlugin.filter (·.toList.take 11 == "\t\"Version\":".toList) =
        [versionLine m.version.code.toNat] := by
      simp [ModuleInfo.unrealPlugin, versionLine]
    have hline : versionLine n ∈ [versionLine m.version.code.toNat] := by
      rw [← hlines, List.mem_filter, hstart]
      exact ⟨h, beq_self_eq_true _⟩
    exact versionLine_injective (List.mem_singleton.mp hline)
  · rintro rfl
    exact List.mem_of_getElem? (i := 2) rfl

theorem moduleInfo_version (r : Renderer) {p : ProgramNode} {v : Version}
    (hv : Version.parse p.version = .ok v) (rest : List ProgramNode) :
    (r.moduleInfo (p :: rest)).version = v := by
  have hsome : p.version.isEmpty = false := by
    rw [Bool.eq_false_iff, Ne, String.isEmpty_iff]
    intro hempty
    rw [hempty] at hv
    cases hv
  change (Renderer.moduleVersion (p :: rest)).2 = v
  rw [Renderer.moduleVersion, hsome, if_neg Bool.false_ne_true, hv]

/-- The descriptor of a module tells the number of the first version of its programs. Among the
versions whose numbers fit sixty-four bits, all later ones have greater numbers exactly if minor and
patch are below a hundred. -/
theorem version_codes_increase_iff {text : String} {v : Version}
    (hv : Version.parse text = .ok v) (hfits : v.fullCode < Text.wordCount) :
    (∀ (r : Renderer) (p : ProgramNode) (rest : List ProgramNode) (n : Nat), p.version = text →
      (versionLine n ∈ (r.moduleInfo (p :: rest)).unrealPlugin ↔ n = v.code.toNat)) ∧
    ((∀ later w, Version.parse later = .ok w → v.Precedes w → w.fullCode < Text.wordCount →
      v.code < w.code) ↔ v.minor < 100 ∧ v.patch < 100) := by
  refine ⟨?_, ?_⟩
  · rintro r p rest n rfl
    rw [versionLine_mem_iff, moduleInfo_version r hv]
  · constructor
    · intro hincreases
      by_contra hplaces
      obtain ⟨major, minor, hprecedes, hle⟩ := Version.exists_fullCode_le hfits hplaces
      have hfits' := Nat.lt_of_le_of_lt hle hfits
      have hlt := hincreases _ _ (Version.parse_core ⟨major, minor, 0, "", ""⟩) hprecedes hfits'
      rw [Version.code_lt_iff hfits hfits'] at hlt
      exact Nat.not_lt_of_le hle hlt
    · rintro ⟨hminor, hpatch⟩ later w - hprecedes hfits'
      rw [Version.code_lt_iff hfits hfits']
      exact Version.fullCode_lt_of_precedes hprecedes hminor hpatch

/-- The descriptor of a release candidate of version 1.99.99 tells a smaller number than version 2
has. -/
theorem version_codes_increase_iff_two_places :
    let v : Version := ⟨1, 99, 99, "rc.1", ""⟩
    let w : Version := ⟨2, 0, 0, "", ""⟩
    let r : Renderer := ⟨⟨.unreal5, "Vault"⟩, false, false, []⟩
    let p : ProgramNode :=
      { name := "vault", publicKey := "", version := "v1.99.99-rc.1", origin := "", docs := [],
        accounts := [], instructions := [], definedTypes := [], pdas := [], errors := [],
        isInternal := false }
    Version.parse "v1.99.99-rc.1" = .ok v ∧ Version.parse "2" = .ok w ∧
      versionLine 19999 ∈ (r.moduleInfo [p]).unrealPlugin ∧ v.code < w.code := by
  intro v w r p
  have hv : Version.parse "v1.99.99-rc.1" = .ok v := by decide +kernel
  have hw : Version.parse "2" = .ok w := by decide +kernel
  obtain ⟨hline, hcodes⟩ := version_codes_increase_iff hv (by decide)
  exact ⟨hv, hw, (hline r p [] 19999 rfl).mpr (by decide +kernel),
    hcodes.mpr (by decide) "2" w hw (by decide) (by decide)⟩

/-- A patch of three places is carried into the minor, and a large major runs over sixty-four
bits. -/
theorem later_version_without_higher_code :
    (∃ v w, Version.parse "1.0.100" = .ok v ∧ Version.parse "1.1.0" = .ok w ∧ v.Precedes w ∧
      v.code = 10100 ∧ w.code = 10100) ∧
    ∃ v w, Version.parse "0.0.1" = .ok v ∧ Version.parse "1844674407370955.16.16" = .ok w ∧
      v.Precedes w ∧ v.code = 1 ∧ w.code = 0 := by
  refine ⟨⟨⟨1, 0, 100, "", ""⟩, ⟨1, 1, 0, "", ""⟩, ?_⟩,
    ⟨0, 0, 1, "", ""⟩, ⟨1844674407370955, 16, 16, "", ""⟩, ?_⟩
  · decide +kernel
  · decide +kernel

end ClientGen.Render
