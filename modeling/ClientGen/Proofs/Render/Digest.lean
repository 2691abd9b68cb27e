import Mathlib.Data.List.Nodup
import ClientGen.Proofs.Render.SortedMaps
import ClientGen.Proofs.Text.Utf8
/-!
# What a digest determines

The digest of a map hashes its texts with a zero character behind each. So the bytes that are hashed
tell the texts apart where these hold no zero character themselves, and then two maps have one
digest only if the hash collides. A zero character inside a text cannot be told from one behind a
text: every map of two files or more shares its bytes with a map of fewer files.
-/
namespace ClientGen.Encoding.Sha256

/-! ### Digits of a hash -/

theorem hexDigit_inj {m n : Nat} (hm : m < 16) (hn : n < 16)
    (h : Text.hexDigit m = Text.hexDigit n) : m = n := by
  have hdigits : ∀ a b : Fin 16, Text.hexDigit a = Text.hexDigit b → a = b := by decide
  exact congrArg Fin.val (hdigits ⟨m, hm⟩ ⟨n, hn⟩ h)

theorem hexPadded_length (places n : Nat) : (Text.hexPadded places n).length = places := by
  induction places generalizing n with
  | zero => rfl
  | succ places ih => rw [Text.hexPadded, List.length_append, ih, List.length_singleton]

theorem hexPadded_inj (places : Nat) : ∀ {m n : Nat}, m < 16 ^ places → n < 16 ^ places →
    Text.hexPadded places m = Text.hexPadded places n → m = n := by
  induction places with
  | zero =>
    intro m n hm hn _
    omega
  | succ places ih =>
    intro m n hm hn h
    rw [Nat.pow_succ'] at hm hn
    obtain ⟨hfront, hlast⟩ := List.append_inj' h rfl
    have hquotient := ih (Nat.div_lt_of_lt_mul hm) (Nat.div_lt_of_lt_mul hn) hfront
    have hrest := hexDigit_inj (Nat.mod_lt m (by decide)) (Nat.mod_lt n (by decide))
      (List.cons.inj hlast).1
    omega

theorem flatMap_wordDigits_inj : ∀ {words words' : List UInt32},
    words.flatMap wordDigits = words'.flatMap wordDigits → words = words' := by
  have hlength (word : UInt32) : (wordDigits word).length = 8 := hexPadded_length 8 word.toNat
  intro words
  induction words with
  | nil =>
    intro words' h
    cases words' with
    | nil => rfl
    | cons word' rest' =>
      have hsize := congrArg List.length h
      simp only [List.flatMap_nil, List.flatMap_cons, List.length_append, hlength,
        List.length_nil] at hsize
      omega
  | cons word rest ih =>
    intro words' h
    cases words' with
    | nil =>
      have hsize := congrArg List.length h
      simp only [List.flatMap_nil, List.flatMap_cons, List.length_append, hlength,
        List.length_nil] at hsize
      omega
    | cons word' rest' =>
      obtain ⟨hword, hrest⟩ := List.append_inj h (by rw [hlength, hlength])
      have hnat := hexPadded_inj 8 word.toNat_lt word'.toNat_lt hword
      rw [UInt32.toNat_inj.mp hnat, ih hrest]

/-- The digits tell the hash. -/
theorem hash_eq_of_hexDigest_eq {message message' : List UInt8}
    (h : hexDigest message = hexDigest message') : hash message = hash message' := by
  have hwords := flatMap_wordDigits_inj (String.ofList_injective h)
  generalize hash message = s at hwords ⊢
  generalize hash message' = s' at hwords ⊢
  cases s
  cases s'
  simpa using hwords

end ClientGen.Encoding.Sha256

namespace ClientGen.Render

open ClientGen.Encoding

namespace FileMap

/-- The texts that are hashed, in order. -/
def texts (map : FileMap) : List String := map.files.flatMap fun file => [file.1, file.2]

def digestText (map : FileMap) : String :=
  String.join ((digestDomain :: map.texts).map (· ++ "\x00"))

theorem utf8_join (texts : List String) :
    (String.join (texts.map (· ++ "\x00"))).toUTF8.toList =
      texts.flatMap fun text => text.toUTF8.toList ++ [0] := by
  have hzero : "\x00".toUTF8.toList = [0] := by
    rw [Text.toList_bytes]
    rfl
  induction texts with
  | nil =>
    rw [Text.toList_bytes]
    rfl
  | cons text rest ih =>
    rw [List.map_cons, String.join_cons, Text.utf8_append, Text.utf8_append, hzero, ih,
      List.flatMap_cons]

theorem digestBytes_eq (map : FileMap) : map.digestBytes = map.digestText.toUTF8.toList := by
  rw [digestText, utf8_join, List.flatMap_cons, texts, List.flatMap_assoc, digestBytes]
  simp only [List.flatMap_cons, List.flatMap_nil, List.append_nil]

/-- What stands between two zero characters of the texts, in order. -/
def pieces (map : FileMap) : List (List Char) :=
  map.texts.flatMap fun text => text.toList.splitOn '\x00'

theorem splitOn_join (texts : List String) :
    (String.join (texts.map (· ++ "\x00"))).toList.splitOn '\x00' =
      (texts.flatMap fun text => text.toList.splitOn '\x00') ++ [[]] := by
  induction texts with
  | nil => rfl
  | cons text rest ih =>
    have hlist : (String.join ((text :: rest).map (· ++ "\x00"))).toList =
        text.toList ++ '\x00' :: (String.join (rest.map (· ++ "\x00"))).toList := by
      simp [String.join_cons]
    rw [hlist, List.splitOn_append_cons_self, ih, List.flatMap_cons, List.append_assoc]

/-- The bytes tell the pieces, and nothing more. -/
theorem digestBytes_eq_iff (map other : FileMap) :
    map.digestBytes = other.digestBytes ↔ map.pieces = other.pieces := by
  have hpieces (m : FileMap) : m.digestText.toList.splitOn '\x00' =
      digestDomain.toList.splitOn '\x00' ++ m.pieces ++ [[]] := by
    rw [digestText, splitOn_join, List.flatMap_cons, pieces]
  rw [digestBytes_eq, digestBytes_eq, Text.utf8_inj]
  constructor
  · intro h
    have hsplit := hpieces map
    rw [h, hpieces other] at hsplit
    exact (List.append_cancel_left (List.append_cancel_right hsplit)).symm
  · intro h
    have hsplit := hpieces map
    rw [h, ← hpieces other] at hsplit
    have hjoined := congrArg (List.intercalate ['\x00']) hsplit
    rw [List.intercalate_splitOn, List.intercalate_splitOn] at hjoined
    exact String.toList_inj.mp hjoined

/-- No text that is hashed holds a zero character. -/
def IsZeroFree (map : FileMap) : Prop := ∀ text ∈ map.texts, '\x00' ∉ text.toList

theorem IsZeroFree.pieces_eq {map : FileMap} (h : map.IsZeroFree) :
    map.pieces = map.texts.map String.toList := by
  rw [pieces, List.map_eq_flatMap]
  exact List.flatMap_congr fun text htext => List.splitOn_eq_singleton (h text htext)

theorem eq_of_texts_eq {map other : FileMap} (h : map.texts = other.texts) : map = other := by
  obtain ⟨files⟩ := map
  obtain ⟨files'⟩ := other
  rw [texts, texts] at h
  congr 1
  induction files generalizing files' with
  | nil =>
    cases files' with
    | nil => rfl
    | cons file' rest' => cases h
  | cons file rest ih =>
    cases files' with
    | nil => cases h
    | cons file' rest' =>
      simp only [List.flatMap_cons, List.cons_append, List.nil_append, List.cons.injEq] at h
      obtain ⟨hpath, hcontent, hrest⟩ := h
      rw [Prod.ext hpath hcontent, ih rest' hrest]

theorem eq_of_digestBytes_eq {map other : FileMap} (h : map.IsZeroFree) (h' : other.IsZeroFree)
    (hbytes : map.digestBytes = other.digestBytes) : map = other := by
  rw [digestBytes_eq_iff, h.pieces_eq, h'.pieces_eq] at hbytes
  have hinj : Function.Injective String.toList := fun _ _ heq => String.toList_injective heq
  exact eq_of_texts_eq (List.map_injective_iff.mpr hinj hbytes)

theorem IsSorted.eq_of_get?_eq {map other : FileMap} (h : map.IsSorted) (h' : other.IsSorted)
    (hget : ∀ path, map.get? path = other.get? path) : map = other := by
  refine h.eq_of_perm h' ((List.perm_ext_iff_of_nodup h.nodup.of_map h'.nodup.of_map).mpr ?_)
  intro file
  rw [← h.get?_eq_some_iff, ← h'.get?_eq_some_iff, hget]

/-- A file with the path and the content of another behind its own content. -/
def absorb (file other : String × String) : String × String :=
  (file.1, file.2 ++ "\x00" ++ other.1 ++ "\x00" ++ other.2)

/-- A file that moves into the content of the one before it leaves the bytes as they are. -/
theorem digestBytes_absorb (first second : String × String) (rest : List (String × String)) :
    digestBytes ⟨absorb first second :: rest⟩ = digestBytes ⟨first :: second :: rest⟩ := by
  have hlist : (absorb first second).2.toList =
      first.2.toList ++ '\x00' :: (second.1.toList ++ '\x00' :: second.2.toList) := by
    simp [absorb]
  have hsplit : (absorb first second).2.toList.splitOn '\x00' = first.2.toList.splitOn '\x00' ++
      (second.1.toList.splitOn '\x00' ++ second.2.toList.splitOn '\x00') := by
    rw [hlist, List.splitOn_append_cons_self, List.splitOn_append_cons_self]
  rw [digestBytes_eq_iff]
  simp only [pieces, texts, List.flatMap_cons, List.cons_append, List.nil_append, hsplit,
    List.append_assoc]
  rfl

/-- No map of two files or more is told by its bytes. -/
theorem exists_smaller_of_two_files {map : FileMap} (h : map.IsSorted) (hsize : 2 ≤ map.size) :
    ∃ other : FileMap, other.IsSorted ∧ other.size < map.size ∧
      other.digestBytes = map.digestBytes := by
  obtain ⟨files⟩ := map
  match files, hsize with
  | first :: second :: rest, _ =>
    obtain ⟨hfirst, hlater⟩ := List.pairwise_cons.mp h
    have hsorted : IsSorted ⟨absorb first second :: rest⟩ := by
      refine List.pairwise_cons.mpr ⟨?_, (List.pairwise_cons.mp hlater).2⟩
      intro file hfile
      exact hfirst file (List.mem_cons_of_mem _ hfile)
    exact ⟨_, hsorted, Nat.lt_succ_self _, digestBytes_absorb first second rest⟩

end FileMap

/-- The bytes that are hashed tell the pieces between zero characters, in any two maps. Where no
text holds such a character, they are the same exactly if the maps have the same content at every
path, so that different maps have one digest only if two different messages have one hash. -/
theorem digestBytes_determines {map other : FileMap} (h : map.IsSorted) (h' : other.IsSorted) :
    (map.digestBytes = other.digestBytes ↔ map.pieces = other.pieces) ∧
    (map.IsZeroFree → other.IsZeroFree →
      (map.digestBytes = other.digestBytes ↔ ∀ path, map.get? path = other.get? path) ∧
      ((∃ path, map.get? path ≠ other.get? path) → map.digest = other.digest →
        map.digestBytes ≠ other.digestBytes ∧
          Sha256.hash map.digestBytes = Sha256.hash other.digestBytes)) := by
  refine ⟨FileMap.digestBytes_eq_iff map other, fun hfree hfree' => ?_⟩
  have hiff : map.digestBytes = other.digestBytes ↔ ∀ path, map.get? path = other.get? path := by
    constructor
    · intro hbytes path
      rw [FileMap.eq_of_digestBytes_eq hfree hfree' hbytes]
    · intro hget
      rw [h.eq_of_get?_eq h' hget]
  refine ⟨hiff, ?_⟩
  rintro ⟨path, hne⟩ hdigest
  refine ⟨?_, Sha256.hash_eq_of_hexDigest_eq hdigest⟩
  intro hbytes
  exact hne (hiff.mp hbytes path)

/-- A boundary that moves from a path into its content changes the bytes. -/
theorem digestBytes_determines_boundary :
    let moved := FileMap.ofList [("a.hb", "")]
    let map := FileMap.ofList [("a.h", "b")]
    moved.digestBytes ≠ map.digestBytes := by
  intro moved map
  have hmoved : moved.IsZeroFree := by
    unfold FileMap.IsZeroFree
    decide +kernel
  have hmap : map.IsZeroFree := by
    unfold FileMap.IsZeroFree
    decide +kernel
  obtain ⟨hiff, -⟩ := (digestBytes_determines (FileMap.isSorted_empty.foldl_add _)
    (FileMap.isSorted_empty.foldl_add _)).2 hmoved hmap
  intro hbytes
  exact absurd (hiff.mp hbytes "a.h") (by decide +kernel)

/-- A file whose content holds the path and the content of another. -/
theorem file_inside_content_shares_digest :
    let inside := FileMap.ofList [("a", "x\x00b\x00y")]
    let beside := FileMap.ofList [("a", "x"), ("b", "y")]
    inside.digestBytes = beside.digestBytes ∧ inside.digest = beside.digest ∧
      inside.get? "b" ≠ beside.get? "b" := by
  intro inside beside
  have hinside : inside = ⟨[FileMap.absorb ("a", "x") ("b", "y")]⟩ := by decide +kernel
  have hbeside : beside = ⟨[("a", "x"), ("b", "y")]⟩ := by decide +kernel
  have hbytes : inside.digestBytes = beside.digestBytes := by
    rw [hinside, hbeside]
    exact FileMap.digestBytes_absorb ("a", "x") ("b", "y") []
  exact ⟨hbytes, congrArg Sha256.hexDigest hbytes, by decide +kernel⟩

end ClientGen.Render
