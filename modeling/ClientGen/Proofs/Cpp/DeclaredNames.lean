import ClientGen.Proofs.Cpp.Hoisting
/-!
# Names of declarations

A declaration is named by the labels on the path to it, one after another and with nothing in
between. Two paths give two names if the labels can be told apart: no label of a struct is the
beginning of another one, and none is empty or begins with a digit, which would run into the number
of a tuple item. Different labels alone are not enough.
-/
namespace ClientGen.Cpp

open ClientGen.Idl

/-- The labels of the fields for which something is declared. -/
def labels : List FieldNode → List (List Char)
  | [] => []
  | ⟨name, type, _, _, _⟩ :: rest =>
    if declares type then (Naming.pascal name).toList :: labels rest else labels rest

/-- Whether a text has a first character that is no digit. -/
def opensWord : List Char → Bool
  | [] => false
  | c :: _ => !c.isDigit

/-- Whether labels can be told apart whatever follows them. -/
def apart : List (List Char) → Bool
  | [] => true
  | label :: rest =>
    opensWord label && rest.all (fun other => !label.isPrefixOf other && !other.isPrefixOf label)
      && apart rest

mutual

/-- Whether the labels of every struct can be told apart. -/
def separable : TypeNode → Bool
  | .amount inner _ _ => separable inner
  | .solAmount inner => separable inner
  | .dateTime inner => separable inner
  | .fixedSize _ inner => separable inner
  | .sizePrefix _ inner => separable inner
  | .array inner _ => separable inner
  | .option inner _ _ => separable inner
  | .struct fields => apart (labels fields) && separableFields fields
  | .tuple items => separableItems items
  | _ => true

def separableFields : List FieldNode → Bool
  | [] => true
  | ⟨_, type, _, _, _⟩ :: rest => separable type && separableFields rest

def separableItems : List TypeNode → Bool
  | [] => true
  | item :: rest => separable item && separableItems rest

end

/-- What may follow a label: nothing, or another label. -/
def Tail (tail : List Char) : Prop := tail = [] ∨ opensWord tail = true

theorem opensWord_append {label : List Char} (h : opensWord label = true) (tail : List Char) :
    opensWord (label ++ tail) = true := by
  cases label with
  | nil => cases h
  | cons c rest => exact h

theorem opensWord_of_mem_apart {labels : List (List Char)} (h : apart labels = true) :
    ∀ label ∈ labels, opensWord label = true := by
  induction labels with
  | nil => simp
  | cons label rest ih =>
    simp only [apart, Bool.and_eq_true] at h
    intro other hother
    rcases List.mem_cons.mp hother with rfl | hother
    · exact h.1.1
    · exact ih h.2 other hother

/-- A site that lies behind one of the labels at a path. -/
def Behind (path : String) (labels : List (List Char)) (site : Site) : Prop :=
  ∃ label ∈ labels, ∃ tail, Tail tail ∧ site.path.toList = path.toList ++ (label ++ tail)

mutual

/-- A site lies at the path of its type, or behind a label that opens a word. -/
theorem sites_tail (assignable : Bool) (path : String) : ∀ type : TypeNode,
    separable type = true → ∀ site ∈ sites assignable path type,
      ∃ tail, Tail tail ∧ site.path.toList = path.toList ++ tail
  | .amount inner _ _, h => sites_tail assignable path inner h
  | .solAmount inner, h => sites_tail assignable path inner h
  | .dateTime inner, h => sites_tail assignable path inner h
  | .fixedSize _ inner, h => sites_tail assignable path inner h
  | .sizePrefix _ inner, h => sites_tail assignable path inner h
  | .array inner _, h => sites_tail assignable path inner h
  | .option inner _ _, h => sites_tail assignable path inner h
  | .struct fields, h => by
    rw [separable, Bool.and_eq_true] at h
    intro site hsite
    rw [sites, List.mem_append, List.mem_singleton] at hsite
    rcases hsite with hsite | rfl
    · obtain ⟨label, hlabel, tail, -, hpath⟩ := fieldSites_behind path fields h.2 site hsite
      have hopens := opensWord_of_mem_apart h.1 label hlabel
      exact ⟨label ++ tail, .inr (opensWord_append hopens tail), hpath⟩
    · exact ⟨[], .inl rfl, by simp [Site.path]⟩
  | .enum variants size, _ => by
    intro site hsite
    rw [sites, List.mem_singleton] at hsite
    exact ⟨[], .inl rfl, by simp [hsite, Site.path]⟩
  | .tuple items, h => by
    intro site hsite
    obtain ⟨k, -, tail, -, hpath⟩ := itemSites_behind assignable path 0 items h site hsite
    exact ⟨_, .inr rfl, hpath⟩
  | .number _, _ | .boolean _, _ | .bytes, _ | .string _, _ | .map .., _ | .set .., _
  | .publicKey, _ | .link _, _ | .field _, _ | .variant _, _ => by simp [sites]

theorem fieldSites_behind (path : String) : ∀ fields : List FieldNode,
    separableFields fields = true → ∀ site ∈ fieldSites path fields,
      Behind path (labels fields) site
  | [], _ => by simp [fieldSites]
  | ⟨name, type, _, _, _⟩ :: rest, h => by
    rw [separableFields, Bool.and_eq_true] at h
    intro site hsite
    rw [fieldSites, List.mem_append] at hsite
    rw [labels]
    cases hdeclares : declares type with
    | false =>
      rw [sites_eq_nil _ _ type hdeclares] at hsite
      exact fieldSites_behind path rest h.2 site (hsite.resolve_left (by simp))
    | true =>
      rw [if_pos rfl]
      rcases hsite with hsite | hsite
      · obtain ⟨tail, htail, hpath⟩ := sites_tail false _ type h.1 site hsite
        refine ⟨_, List.mem_cons_self, tail, htail, ?_⟩
        rw [hpath, fieldPath, String.toList_append, List.append_assoc]
      · obtain ⟨label, hlabel, hrest⟩ := fieldSites_behind path rest h.2 site hsite
        exact ⟨label, List.mem_cons_of_mem _ hlabel, hrest⟩

theorem itemSites_behind (assignable : Bool) (path : String) (index : Nat) :
    ∀ items : List TypeNode, separableItems items = true →
      ∀ site ∈ itemSites assignable path index items,
        ∃ k, index ≤ k ∧ ∃ tail, Tail tail ∧
          site.path.toList = path.toList ++ ("Item".toList ++ (k.repr.toList ++ tail))
  | [], _ => by simp [itemSites]
  | item :: rest, h => by
    rw [separableItems, Bool.and_eq_true] at h
    intro site hsite
    rw [itemSites, List.mem_append] at hsite
    rcases hsite with hsite | hsite
    · obtain ⟨tail, htail, hpath⟩ := sites_tail assignable _ item h.1 site hsite
      refine ⟨index, Nat.le_refl index, tail, htail, ?_⟩
      rw [hpath, itemPath]
      simp
    · obtain ⟨k, hk, hrest⟩ := itemSites_behind assignable path (index + 1) rest h.2 site hsite
      exact ⟨k, by omega, hrest⟩

end

/-! ### Distinct paths -/

/-- Two of the labels that can be told apart never begin one text. -/
theorem append_ne_of_apart {label other : List Char} {rest : List (List Char)}
    (h : apart (label :: rest) = true) (hother : other ∈ rest) (tail tail' : List Char) :
    label ++ tail ≠ other ++ tail' := by
  simp only [apart, Bool.and_eq_true, List.all_eq_true, Bool.not_eq_true'] at h
  obtain ⟨⟨-, hapart⟩, -⟩ := h
  obtain ⟨hleft, hright⟩ := hapart other hother
  intro heq
  have hlabel : label <+: label ++ tail := List.prefix_append label tail
  have hprefix : other <+: label ++ tail := by
    rw [heq]
    exact List.prefix_append other tail'
  rcases List.prefix_or_prefix_of_prefix hlabel hprefix with hle | hle
  · rw [← List.isPrefixOf_iff_prefix, hleft] at hle
    cases hle
  · rw [← List.isPrefixOf_iff_prefix, hright] at hle
    cases hle

theorem takeWhile_isDigit_repr (k : Nat) {tail : List Char} (h : Tail tail) :
    (k.repr.toList ++ tail).takeWhile Char.isDigit = k.repr.toList := by
  have hdigits : ∀ c ∈ k.repr.toList, c.isDigit = true := by
    intro c hc
    rw [Nat.repr_eq_ofList_toDigits, String.toList_ofList] at hc
    exact Nat.isDigit_of_mem_toDigits (by decide) (by decide) hc
  have htail : tail.takeWhile Char.isDigit = [] := by
    cases tail with
    | nil => rfl
    | cons c rest =>
      have hc := h.resolve_left (List.cons_ne_nil c rest)
      rw [opensWord, Bool.not_eq_true'] at hc
      simp [List.takeWhile, hc]
  rw [List.takeWhile_append_of_pos hdigits, htail, List.append_nil]

/-- The number of an item ends where its label does. -/
theorem index_eq_of_append_eq {i j : Nat} {tail tail' : List Char} (h : Tail tail)
    (h' : Tail tail') (heq : i.repr.toList ++ tail = j.repr.toList ++ tail') : i = j := by
  have hdigits := congrArg (List.takeWhile Char.isDigit) heq
  rw [takeWhile_isDigit_repr i h, takeWhile_isDigit_repr j h', Nat.repr_eq_ofList_toDigits,
    Nat.repr_eq_ofList_toDigits, String.toList_ofList, String.toList_ofList] at hdigits
  have hvalue := congrArg (Nat.ofDigitChars 10 · 0) hdigits
  simpa [Nat.ofDigitChars_toDigits] using hvalue

mutual

/-- If labels can be told apart, so can the sites of a type. -/
theorem sites_paths_nodup (assignable : Bool) (path : String) : ∀ type : TypeNode,
    separable type = true → ((sites assignable path type).map Site.path).Nodup
  | .amount inner _ _, h => sites_paths_nodup assignable path inner h
  | .solAmount inner, h => sites_paths_nodup assignable path inner h
  | .dateTime inner, h => sites_paths_nodup assignable path inner h
  | .fixedSize _ inner, h => sites_paths_nodup assignable path inner h
  | .sizePrefix _ inner, h => sites_paths_nodup assignable path inner h
  | .array inner _, h => sites_paths_nodup assignable path inner h
  | .option inner _ _, h => sites_paths_nodup assignable path inner h
  | .struct fields, h => by
    rw [separable, Bool.and_eq_true] at h
    rw [sites, List.map_append, List.nodup_append]
    refine ⟨fieldSites_paths_nodup path fields h.1 h.2, by simp, ?_⟩
    -- what lies behind a label is longer than the path of the struct itself
    intro below hbelow top htop heq
    obtain ⟨site, hsite, rfl⟩ := List.mem_map.mp hbelow
    obtain ⟨label, hlabel, tail, -, hpath⟩ := fieldSites_behind path fields h.2 site hsite
    have hopens := opensWord_of_mem_apart h.1 label hlabel
    rw [List.map_singleton, List.mem_singleton, Site.path] at htop
    rw [heq, htop] at hpath
    have hnil : label = [] ∧ tail = [] := by simpa using hpath
    rw [hnil.1] at hopens
    cases hopens
  | .enum _ _, _ => by simp [sites]
  | .tuple items, h => itemSites_paths_nodup assignable path 0 items h
  | .number _, _ | .boolean _, _ | .bytes, _ | .string _, _ | .map .., _ | .set .., _
  | .publicKey, _ | .link _, _ | .field _, _ | .variant _, _ => by simp [sites]

theorem fieldSites_paths_nodup (path : String) : ∀ fields : List FieldNode,
    apart (labels fields) = true → separableFields fields = true →
      ((fieldSites path fields).map Site.path).Nodup
  | [], _, _ => by simp [fieldSites]
  | ⟨name, type, _, _, _⟩ :: rest, hapart, h => by
    rw [separableFields, Bool.and_eq_true] at h
    rw [labels] at hapart
    rw [fieldSites]
    cases hdeclares : declares type with
    | false =>
      rw [if_neg (by simp [hdeclares])] at hapart
      rw [sites_eq_nil _ _ type hdeclares]
      exact fieldSites_paths_nodup path rest hapart h.2
    | true =>
      rw [if_pos hdeclares] at hapart
      have hrest : apart (labels rest) = true := by
        rw [apart, Bool.and_eq_true] at hapart
        exact hapart.2
      rw [List.map_append, List.nodup_append]
      refine ⟨sites_paths_nodup false _ type h.1, fieldSites_paths_nodup path rest hrest h.2, ?_⟩
      intro first hfirst second hsecond heq
      obtain ⟨site, hsite, rfl⟩ := List.mem_map.mp hfirst
      obtain ⟨other, hother, rfl⟩ := List.mem_map.mp hsecond
      obtain ⟨tail, -, hpath⟩ := sites_tail false _ type h.1 site hsite
      obtain ⟨label, hlabel, tail', -, hpath'⟩ := fieldSites_behind path rest h.2 other hother
      rw [heq, hpath', fieldPath, String.toList_append, List.append_assoc,
        List.append_cancel_left_eq] at hpath
      exact append_ne_of_apart hapart hlabel tail tail' hpath.symm

theorem itemSites_paths_nodup (assignable : Bool) (path : String) (index : Nat) :
    ∀ items : List TypeNode, separableItems items = true →
      ((itemSites assignable path index items).map Site.path).Nodup
  | [], _ => by simp [itemSites]
  | item :: rest, h => by
    rw [separableItems, Bool.and_eq_true] at h
    rw [itemSites, List.map_append, List.nodup_append]
    refine ⟨sites_paths_nodup assignable _ item h.1,
      itemSites_paths_nodup assignable path (index + 1) rest h.2, ?_⟩
    intro first hfirst second hsecond heq
    obtain ⟨site, hsite, rfl⟩ := List.mem_map.mp hfirst
    obtain ⟨other, hother, rfl⟩ := List.mem_map.mp hsecond
    obtain ⟨tail, htail, hpath⟩ := sites_tail assignable _ item h.1 site hsite
    obtain ⟨k, hk, tail', htail', hpath'⟩ :=
      itemSites_behind assignable path (index + 1) rest h.2 other hother
    rw [heq, hpath', itemPath] at hpath
    simp only [String.toList_append, List.append_assoc, List.append_cancel_left_eq] at hpath
    have hindex := index_eq_of_append_eq htail' htail hpath
    omega

end

theorem structName_injective {flavor : Flavor} {first second : String}
    (h : flavor.structName first = flavor.structName second) : first = second := by
  rw [Flavor.structName, Flavor.structName, ← String.toList_inj, String.toList_append,
    String.toList_append, List.append_cancel_left_eq, String.toList_inj] at h
  exact h

/-- The declarations of a struct at the top are named apart, the struct itself included, if the
labels of every struct in it can be told apart. -/
theorem declared_names_distinct (target : Target) (ctx : Context) (fields : List FieldNode)
    (m : Manifest) (hnested : ctx.nested = false) (hinlined : ctx.inlined = false)
    (hplaced : wellPlaced (.struct fields) = true) (hseparable : separable (.struct fields) = true)
    (h : lower target ctx (.struct fields) = .ok m) :
    ∃ top : Declaration, m.type = top.text ∧ top.name = target.flavor.structName ctx.parent ∧
      ((m.nested ++ [top]).map (·.name)).Nodup := by
  have hparent : ctx.parent ≠ "" := by
    intro hempty
    rw [lower, requireParent, hempty] at h
    cases h
  obtain ⟨declared, hdeclared, -, htop⟩ :=
    lower_declarations hparent hinlined (.inr ⟨fields, rfl⟩) hplaced h
  obtain ⟨top, rfl, htext⟩ := htop hnested
  have hnames := map_name_of_map_declaration? _ _ (map_eq_of_mapM_eq_some _ _ _ hdeclared)
  have hpaths := sites_paths_nodup ctx.assignable ctx.parent (.struct fields) hseparable
  refine ⟨top, htext, ?_, ?_⟩
  · rw [sites, List.map_append, List.map_append] at hnames
    have hlast := (List.append_inj' hnames rfl).2
    simpa [Site.name, Site.path] using hlast
  · rw [hnames]
    change ((sites _ _ _).map (target.flavor.structName ∘ Site.path)).Nodup
    rw [← List.map_map]
    exact List.Pairwise.map _ (fun _ _ hne heq => hne (structName_injective heq)) hpaths

/-- Neither `fee` and `limit` nor the numbers of eleven items begin one another. -/
theorem declared_names_distinct_vault :
    let field (name : String) (type : TypeNode) : FieldNode := ⟨name, type, [], none, ""⟩
    let fields := [field "fee" (.struct [field "config" (.struct [])]),
      field "feeRate" (.number (.little "u8")),
      field "limits" (.tuple (List.replicate 11 (.struct [])))]
    ∃ (m : Manifest) (top : Declaration),
      lower ⟨.unreal5, "Vault"⟩ (.root "Vault") (.struct fields) = .ok m ∧ m.type = top.text ∧
        m.nested.length = 13 ∧ ((m.nested ++ [top]).map (·.name)).Nodup := by
  intro field fields
  cases hlower : lower ⟨.unreal5, "Vault"⟩ (.root "Vault") (.struct fields) with
  | error e =>
    have hok : (lower ⟨.unreal5, "Vault"⟩ (.root "Vault") (.struct fields)).toBool = true := by
      decide +kernel
    rw [hlower] at hok
    cases hok
  | ok m =>
    have hlength : (lower ⟨.unreal5, "Vault"⟩ (.root "Vault") (.struct fields)).toOption.map
        (·.nested.length) = some 13 := by decide +kernel
    rw [hlower] at hlength
    obtain ⟨top, htext, -, hnodup⟩ := declared_names_distinct ⟨.unreal5, "Vault"⟩ (.root "Vault")
      fields m rfl rfl (by decide +kernel) (by decide +kernel) hlower
    exact ⟨m, top, rfl, htext, by simpa [Except.toOption] using hlength, hnodup⟩

/-- The labels of every struct differ, and yet two declarations have one name: `fee` and `config`
run together to `feeConfig`, and `pair` runs into the number of its first item. -/
theorem different_labels_share_name :
    let field (name : String) (type : TypeNode) : FieldNode := ⟨name, type, [], none, ""⟩
    let fee := [field "fee" (.struct [field "config" (.struct [])]), field "feeConfig" (.struct [])]
    let pair := [field "pair" (.tuple [.struct []]), field "pairItem0" (.struct [])]
    (∀ fields ∈ [fee, pair], (fields.map fun f => Naming.pascal f.name).Nodup) ∧
      (lower ⟨.unreal5, "Vault"⟩ (.root "Vault") (.struct fee)).toOption.map
          (fun m => m.nested.map (·.name)) =
        some ["FVaultFeeConfig", "FVaultFee", "FVaultFeeConfig"] ∧
      (lower ⟨.unreal5, "Vault"⟩ (.root "Vault") (.struct pair)).toOption.map
          (fun m => m.nested.map (·.name)) =
        some ["FVaultPairItem0", "FVaultPairItem0"] := by
  decide +kernel

end ClientGen.Cpp
