import ClientGen.Json.Fields
import ClientGen.Proofs.Json.Spelling
/-!
# The texts that members keep

Every member of an object, however deep, keeps the text from which its value was read. That text is
a spelling of the value, but which one is not told by the value.
-/
namespace ClientGen.Json

mutual

/-- Something holds for the members of all objects of a value. -/
def Value.EveryMember (p : Member → Prop) : Value → Prop
  | .array items => ItemsEveryMember p items
  | .object members => MembersEveryMember p members
  | _ => True

def ItemsEveryMember (p : Member → Prop) : List Value → Prop
  | [] => True
  | item :: rest => item.EveryMember p ∧ ItemsEveryMember p rest

def MembersEveryMember (p : Member → Prop) : List Member → Prop
  | [] => True
  | ⟨name, value, source⟩ :: rest =>
    p ⟨name, value, source⟩ ∧ value.EveryMember p ∧ MembersEveryMember p rest

end

/-- The text of a member spells its value. -/
def Member.IsSourced (m : Member) : Prop :=
  ∃ s : Spelling, m.source = String.ofList s.text ∧ s.value = m.value

mutual

private theorem everyMember_spelling :
    ∀ s : Spelling, s.value.EveryMember Member.IsSourced
  | .null => trivial
  | .bool _ => trivial
  | .number _ _ => trivial
  | .string _ => trivial
  | .emptyArray _ => trivial
  | .array items => everyMember_items items
  | .emptyObject _ => trivial
  | .object members => everyMember_members members

private theorem everyMember_items :
    ∀ s : SpelledItems, ItemsEveryMember Member.IsSourced s.values
  | .last _ item _ => ⟨everyMember_spelling item, trivial⟩
  | .next _ item _ rest => ⟨everyMember_spelling item, everyMember_items rest⟩

private theorem everyMember_members :
    ∀ s : SpelledMembers, MembersEveryMember Member.IsSourced s.members
  | .last _ _ _ _ value _ => ⟨⟨value, rfl, rfl⟩, everyMember_spelling value, trivial⟩
  | .next _ _ _ _ value _ rest =>
    ⟨⟨value, rfl, rfl⟩, everyMember_spelling value, everyMember_members rest⟩

end

theorem Denotes.everyMember_isSourced {text : String} {v : Value} (h : Denotes text v) :
    v.EveryMember Member.IsSourced := by
  obtain ⟨_, s, _, _, rfl⟩ := h
  exact everyMember_spelling s

/-! ### Parts of a value -/

variable {p q : Member → Prop}

theorem membersEveryMember_iff (ms : List Member) :
    MembersEveryMember p ms ↔ ∀ m ∈ ms, p m ∧ m.value.EveryMember p := by
  induction ms with
  | nil => simp [MembersEveryMember]
  | cons m rest ih =>
    obtain ⟨name, value, source⟩ := m
    rw [MembersEveryMember, ih, List.forall_mem_cons, and_assoc]

theorem itemsEveryMember_iff (vs : List Value) :
    ItemsEveryMember p vs ↔ ∀ v ∈ vs, v.EveryMember p := by
  induction vs with
  | nil => simp [ItemsEveryMember]
  | cons v rest ih => rw [ItemsEveryMember, ih, List.forall_mem_cons]

mutual

theorem everyMember_and :
    ∀ v : Value, v.EveryMember p → v.EveryMember q → v.EveryMember fun m => p m ∧ q m
  | .null, _, _ => trivial
  | .bool _, _, _ => trivial
  | .number _, _, _ => trivial
  | .string _, _, _ => trivial
  | .array items, hp, hq => itemsEveryMember_and items hp hq
  | .object members, hp, hq => membersEveryMember_and members hp hq

private theorem itemsEveryMember_and : ∀ vs : List Value, ItemsEveryMember p vs →
    ItemsEveryMember q vs → ItemsEveryMember (fun m => p m ∧ q m) vs
  | [], _, _ => trivial
  | v :: vs, hp, hq => ⟨everyMember_and v hp.1 hq.1, itemsEveryMember_and vs hp.2 hq.2⟩

private theorem membersEveryMember_and : ∀ ms : List Member, MembersEveryMember p ms →
    MembersEveryMember q ms → MembersEveryMember (fun m => p m ∧ q m) ms
  | [], _, _ => trivial
  | ⟨_, v, _⟩ :: ms, hp, hq =>
    ⟨⟨hp.1, hq.1⟩, everyMember_and v hp.2.1 hq.2.1, membersEveryMember_and ms hp.2.2 hq.2.2⟩

end

theorem MembersEveryMember.lastMember? {ms : List Member} (h : MembersEveryMember p ms)
    {field : String} {m : Member} (hm : lastMember? field ms = some m) :
    sameName field m.name = true ∧ p m ∧ m.value.EveryMember p := by
  obtain ⟨hmem, hname⟩ := List.mem_filter.mp (List.mem_of_getLast? hm)
  exact ⟨hname, (membersEveryMember_iff ms).mp h m hmem⟩

theorem MembersEveryMember.listOf {ms : List Member} (h : MembersEveryMember p ms)
    (field : String) : ∀ v ∈ listOf field ms, v.EveryMember p := by
  rw [Json.listOf, lastValue]
  cases hm : Json.lastMember? field ms with
  | none => simp
  | some m =>
    obtain ⟨-, -, hvalue⟩ := h.lastMember? hm
    dsimp only
    split
    · rename_i items heq
      rw [heq] at hvalue
      exact (itemsEveryMember_iff items).mp hvalue
    · simp

end ClientGen.Json
