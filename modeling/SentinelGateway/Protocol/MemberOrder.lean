import Mathlib.Data.List.Forall2
import Mathlib.Data.List.Sort
import SentinelGateway.Protocol.JsonRpc

/-!
# The order of members

`serde_json` keeps the members of a `Value` sorted by their names. So a value that was
written down in another order is not read back as it was, but as one with the same members
in another order, and that at every depth. A typed record does not see the difference.
-/

namespace SentinelGateway

namespace Json

/-- The same value up to the order of members, at any depth. -/
inductive Reordered : Json → Json → Prop
  | null : Reordered .null .null
  | bool (b : Bool) : Reordered (.bool b) (.bool b)
  | number (n : Number) : Reordered (.number n) (.number n)
  | string (s : String) : Reordered (.string s) (.string s)
  | array {items items' : List Json} (same : List.Forall₂ Reordered items items') :
      Reordered (.array items) (.array items')
  | object {members values members' : List (String × Json)}
      (names : values.map Prod.fst = members.map Prod.fst)
      (same : List.Forall₂ Reordered (members.map Prod.snd) (values.map Prod.snd))
      (perm : values.Perm members') : Reordered (.object members) (.object members')

/-- Two members with the same name and the same value. -/
def SameMember (member member' : String × Json) : Prop :=
  member'.1 = member.1 ∧ Reordered member.2 member'.2

theorem forall₂_sameMember_iff {members values : List (String × Json)} :
    List.Forall₂ SameMember members values ↔ values.map Prod.fst = members.map Prod.fst ∧
      List.Forall₂ Reordered (members.map Prod.snd) (values.map Prod.snd) := by
  induction members generalizing values with
  | nil => cases values <;> simp
  | cons member members ih =>
    cases values with
    | nil => simp
    | cons value values =>
      simp only [List.forall₂_cons, List.map_cons, List.cons.injEq, ih, SameMember]
      exact and_and_and_comm

/-- A text is the same text. -/
theorem Reordered.asStr_eq {v w : Json} (h : Reordered v w) : w.asStr = v.asStr := by
  cases h <;> rfl

/-- An identifier is the same identifier, as `Value` reads it and as a record does. -/
theorem Reordered.asU64_eq {v w : Json} (h : Reordered v w) : w.asU64 = v.asU64 := by
  cases h <;> rfl

theorem Reordered.decodeId_eq {v w : Json} (h : Reordered v w) :
    JsonRpcId.decode w = JsonRpcId.decode v := by
  cases h <;> rfl

/-- What an object is the same as is an object. -/
theorem Reordered.exists_members {members : List (String × Json)} {v : Json}
    (h : Reordered (.object members) v) : ∃ members', v = .object members' := by
  cases h with
  | object => exact ⟨_, rfl⟩

/-- A field that is read once from some members is read once from them in another order. -/
theorem Reordered.uniqueField {members members' : List (String × Json)}
    (h : Reordered (.object members) (.object members')) {key : String} {field : Option Json}
    (hfield : uniqueField key members = some field) :
    ∃ field', Json.uniqueField key members' = some field' ∧ Option.Rel Reordered field field' := by
  cases h with
  | @object _ values _ names same perm =>
    have hvalues := forall₂_sameMember_iff.mpr ⟨names, same⟩
    have hfiltered : List.Forall₂ SameMember (members.filter fun member => member.1 = key)
        (values.filter fun member => member.1 = key) :=
      List.rel_filter (fun member value hsame => by simp [hsame.1]) hvalues
    have hperm := perm.filter fun member => decide (member.1 = key)
    rw [Json.uniqueField] at hfield ⊢
    cases hmembers : members.filter fun member => decide (member.1 = key) with
    | nil =>
      obtain rfl : none = field := by simpa [hmembers] using hfield
      rw [hmembers, List.forall₂_nil_left_iff] at hfiltered
      rw [hfiltered, List.nil_perm] at hperm
      exact ⟨none, by rw [hperm], .none⟩
    | cons member others =>
      cases others with
      | nil =>
        obtain rfl : some member.2 = field := by simpa [hmembers] using hfield
        rw [hmembers, List.forall₂_cons_left_iff] at hfiltered
        obtain ⟨value, rest, ⟨-, hvalue⟩, hrest, hone⟩ := hfiltered
        obtain rfl := List.forall₂_nil_left_iff.mp hrest
        rw [hone, List.singleton_perm] at hperm
        exact ⟨some value.2, by rw [← hperm], .some hvalue⟩
      | cons other others => simp [hmembers] at hfield

/-- Only the members of that name matter. -/
theorem lastMember_filter (key : String) (members : List (String × Json)) :
    lastMember key (members.filter fun member => member.1 = key) = lastMember key members := by
  induction members with
  | nil => rfl
  | cons member members ih =>
    by_cases hname : member.1 = key
    · simp [lastMember, hname, ih]
    · simp [lastMember, hname, ih]

/-- A field that is read once is the one a `Value` holds. -/
theorem lastMember_of_uniqueField {members : List (String × Json)} {key : String}
    {field : Option Json} (h : uniqueField key members = some field) :
    lastMember key members = field := by
  rw [← lastMember_filter]
  rw [uniqueField] at h
  cases hmembers : members.filter fun member => decide (member.1 = key) with
  | nil =>
    obtain rfl : none = field := by simpa [hmembers] using h
    rfl
  | cons member others =>
    cases others with
    | nil =>
      obtain rfl : some member.2 = field := by simpa [hmembers] using h
      have hname : member.1 = key := by
        have hmem : member ∈ members.filter fun member => decide (member.1 = key) := by
          rw [hmembers]
          exact List.mem_singleton_self _
        simpa using List.of_mem_filter hmem
      simp [lastMember, hname]
    | cons other others => simp [hmembers] at h

/-- A member that stands there once is found in another order too. -/
theorem Reordered.get {members : List (String × Json)} {v value : Json} {key : String}
    (h : Reordered (.object members) v)
    (hfield : Json.uniqueField key members = some (some value)) :
    ∃ value', v.get key = some value' ∧ Reordered value value' := by
  obtain ⟨members', rfl⟩ := h.exists_members
  obtain ⟨field, hfield', hsame⟩ := h.uniqueField hfield
  cases hsame with
  | some hvalue => exact ⟨_, lastMember_of_uniqueField hfield', hvalue⟩

/-- A required field that does not depend on the order is read the same. -/
theorem required_of_rel {α : Type} {decode : Json → Option α}
    (hdecode : ∀ v w, Reordered v w → decode w = decode v) {field field' : Option Json}
    (h : Option.Rel Reordered field field') : required decode field' = required decode field := by
  cases h with
  | none => rfl
  | some hvalue => exact hdecode _ _ hvalue

theorem optional_of_rel {α : Type} {decode : Json → Option α}
    (hdecode : ∀ v w, Reordered v w → decode w = decode v) {field field' : Option Json}
    (h : Option.Rel Reordered field field') : optional decode field' = optional decode field := by
  cases h with
  | none => rfl
  | some hvalue =>
    rename_i v w
    have heq := hdecode v w hvalue
    cases hvalue <;> simp [optional, heq]

end Json

/-- Parameters stay parameters, and a `null` stays a `null`. -/
theorem Json.optional_some_of_rel {field field' read : Option Json}
    (h : Option.Rel Json.Reordered field field') (hread : Json.optional some field = some read) :
    ∃ read', Json.optional some field' = some read' ∧ Option.Rel Json.Reordered read read' := by
  cases h with
  | none =>
    obtain rfl := Option.some.inj hread
    exact ⟨none, rfl, .none⟩
  | some hvalue =>
    cases hvalue with
    | null =>
      obtain rfl := Option.some.inj hread
      exact ⟨none, rfl, .none⟩
    | bool | number | string =>
      obtain rfl := Option.some.inj hread
      exact ⟨_, rfl, .some (by constructor)⟩
    | array same =>
      obtain rfl := Option.some.inj hread
      exact ⟨_, rfl, .some (.array same)⟩
    | object names same perm =>
      obtain rfl := Option.some.inj hread
      exact ⟨_, rfl, .some (.object names same perm)⟩

/-- **Reading a request.** With its members in another order it is read as the same request,
but for the order of the members of its parameters. -/
theorem JsonRpcRequest.decode_reordered {members : List (String × Json)} {v : Json}
    {request : JsonRpcRequest} (h : Json.Reordered (.object members) v)
    (hdecode : decode (.object members) = some request) :
    ∃ params, decode v = some { request with params } ∧
      Option.Rel Json.Reordered request.params params := by
  obtain ⟨members', rfl⟩ := h.exists_members
  simp only [decode, ofFields, Option.bind_eq_bind, Option.bind_eq_some_iff, Option.pure_def,
    Option.some.injEq] at hdecode
  obtain ⟨versionField, hversionField, idField, hidField, methodField, hmethodField, paramsField,
    hparamsField, jsonrpc, hjsonrpc, id, hid, method, hmethod, params, hparams, rfl⟩ := hdecode
  obtain ⟨_, hversionField', hversion⟩ := h.uniqueField hversionField
  obtain ⟨_, hidField', hsameId⟩ := h.uniqueField hidField
  obtain ⟨_, hmethodField', hsameMethod⟩ := h.uniqueField hmethodField
  obtain ⟨_, hparamsField', hsameParams⟩ := h.uniqueField hparamsField
  obtain ⟨params', hparams', hrel⟩ := Json.optional_some_of_rel hsameParams hparams
  refine ⟨params', ?_, hrel⟩
  have hjsonrpc' := (Json.required_of_rel (fun _ _ h => h.asStr_eq) hversion).trans hjsonrpc
  have hid' := (Json.optional_of_rel (fun _ _ h => h.decodeId_eq) hsameId).trans hid
  have hmethod' := (Json.required_of_rel (fun _ _ h => h.asStr_eq) hsameMethod).trans hmethod
  simp only [decode, ofFields, hversionField', hidField', hmethodField', hparamsField', hjsonrpc',
    hid', hmethod', hparams', Option.bind_eq_bind, Option.bind_some, Option.pure_def]

namespace Json

/-- Whether a member stands before another one in a map that is sorted by names. -/
def NameLE (member other : String × Json) : Prop := member.1 ≤ other.1

instance : DecidableRel NameLE := fun member other =>
  inferInstanceAs (Decidable (member.1 ≤ other.1))

mutual

/-- The value with the members of all objects sorted by their names. -/
def sorted : Json → Json
  | .array items => .array (sortedItems items)
  | .object members => .object ((sortedMembers members).insertionSort NameLE)
  | v => v

def sortedItems : List Json → List Json
  | [] => []
  | item :: items => item.sorted :: sortedItems items

def sortedMembers : List (String × Json) → List (String × Json)
  | [] => []
  | (name, value) :: members => (name, value.sorted) :: sortedMembers members

end

mutual

/-- Sorting changes nothing but the order of members. -/
theorem reordered_sorted : ∀ v : Json, Reordered v v.sorted
  | .null => .null
  | .bool b => .bool b
  | .number n => .number n
  | .string s => .string s
  | .array items => by
    rw [sorted]
    exact .array (reordered_sortedItems items)
  | .object members => by
    rw [sorted]
    have hsame := forall₂_sameMember_iff.mp (sameMember_sortedMembers members)
    exact .object hsame.1 hsame.2 (List.perm_insertionSort NameLE _).symm

theorem reordered_sortedItems : ∀ items : List Json,
    List.Forall₂ Reordered items (sortedItems items)
  | [] => .nil
  | item :: items => .cons (reordered_sorted item) (reordered_sortedItems items)

theorem sameMember_sortedMembers : ∀ members : List (String × Json),
    List.Forall₂ SameMember members (sortedMembers members)
  | [] => .nil
  | (_, value) :: members => .cons ⟨rfl, reordered_sorted value⟩ (sameMember_sortedMembers members)

end

end Json

/-- A printer that writes sorted members, as that of `Value` does, and a reader that knows
the texts of the listed values in that form. -/
def SerdeJson.sorting (values : List Json) : SerdeJson :=
  { SerdeJson.ofValues (values.map Json.sorted) with toString := fun v => v.sorted.text }

/-- The reader reads what the printer prints of a listed value, if no other has that text. -/
theorem SerdeJson.fromStr_sorting {values : List Json}
    (hnodup : (values.map fun v => v.sorted.chars).Nodup) {v : Json} (hv : v ∈ values) :
    (sorting values).fromStr ((sorting values).toString v) = .ok v.sorted := by
  have hmem : v.sorted ∈ values.map Json.sorted := List.mem_map_of_mem hv
  simp only [sorting, SerdeJson.ofValues]
  cases hfound : (values.map Json.sorted).find? fun w => decide (w.text = v.sorted.text) with
  | none =>
    have hnone := List.find?_eq_none.mp hfound v.sorted hmem
    simp at hnone
  | some w =>
    obtain ⟨u, hu, rfl⟩ := List.mem_map.mp (List.mem_of_find?_eq_some hfound)
    have htext : u.sorted.text = v.sorted.text := by simpa using List.find?_some hfound
    rw [Json.text_eq, Json.text_eq] at htext
    obtain rfl := List.inj_on_of_nodup_map hnodup hu hv (String.ofList_injective htext)
    rfl

end SentinelGateway
