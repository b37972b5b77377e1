import RunnerRelease.Json.Parser
import RunnerRelease.Proofs.Json.Path

/-!
# Fields of a text and of the value it denotes

A reader looks at the members as the text lists them, the value that the text denotes
keeps them in key order. Where a reader finds a field, given once, the value has it too.
Bytes are read as the text that they spell, if they spell one.
-/

namespace RunnerRelease

/-- A list that could be read was read item by item. -/
theorem forall₂_of_mapM_eq_some {α β : Type} {f : α → Option β} {as : List α} {bs : List β}
    (h : as.mapM f = some bs) : List.Forall₂ (fun a b => f a = some b) as bs := by
  induction as generalizing bs with
  | nil =>
      cases h
      exact .nil
  | cons a as ih =>
      simp only [List.mapM_cons, Option.bind_eq_bind, Option.bind_eq_some_iff] at h
      obtain ⟨b, hb, rest, hrest, heq⟩ := h
      cases heq
      exact .cons hb (ih hrest)

/-- Well-formed bytes are read as the text that they spell. -/
theorem Json.parseBytes_of_decode? {bytes : Text.Bytes} {s : String}
    (h : Text.decode? bytes = some s) : parseBytes bytes = parse s := by
  obtain ⟨cs, hcs, rfl⟩ := Option.map_eq_some_iff.1 h
  have hgroups : Text.decodeGroups bytes = cs.map some := by
    rw [← List.forall₂_eq_eq_eq, List.forall₂_map_right_iff]
    exact forall₂_of_mapM_eq_some hcs
  rw [parseBytes, hgroups, parse, String.toList_ofList]

/-- Other bytes are read as well, as long as they are malformed in a string only. -/
example : (Json.parseBytes [0x22, 0xFF, 0x22]).isSome ∧ Json.parseBytes [0xFF] = none := by
  decide +kernel

namespace Members

theorem get?_eq_head?_filter {α : Type} (ms : Members α) (key : String) :
    get? ms key = ((ms.filter fun m => m.1 == key).head?).map Prod.snd := by
  induction ms with
  | nil => rfl
  | cons head rest ih =>
      obtain ⟨k, v⟩ := head
      rw [get?_cons, ih, List.filter_cons]
      by_cases hk : k = key <;> simp [hk]

end Members

namespace Document

open Members

/-- A text's members, and the members of the value it denotes before they are put in order. -/
theorem toJson?_of_members? {d : Document} {value : Json} {ms : List (String × Document)}
    (hvalue : d.toJson? = some value) (hms : d.members? = some ms) :
    ∃ vs : List (String × Json), value = .object (ofList vs) ∧
      List.Forall₂ (fun m v => m.1 = v.1 ∧ m.2.toJson? = some v.2) ms vs := by
  cases d with
  | object raw =>
      obtain ⟨vs, hvs, rfl⟩ := Option.map_eq_some_iff.1 hvalue
      refine ⟨vs, rfl, ?_⟩
      have hnames := forall₂_of_mapM_eq_some hms
      clear hvalue hms
      induction hnames generalizing vs with
      | nil =>
          cases hvs
          exact .nil
      | @cons rawHead head rawRest rest hhead _ ih =>
          obtain ⟨name, doc⟩ := rawHead
          obtain ⟨key, hkey, rfl⟩ := Option.map_eq_some_iff.1 hhead
          cases hkey
          obtain ⟨_, hkey, hvs⟩ := Option.bind_eq_some_iff.1 hvs
          cases hkey
          obtain ⟨v, hv, hrest⟩ := Option.bind_eq_some_iff.1 hvs
          obtain ⟨us, hus, rfl⟩ := Option.map_eq_some_iff.1 hrest
          exact .cons ⟨rfl, hv⟩ (ih us hus)
  | _ => cases hms

/-- What is given under a name is what the value binds the name to. -/
theorem get?_of_given {d : Document} {value : Json} {ms : List (String × Document)}
    {name : String} {field : Option Document} (hvalue : d.toJson? = some value)
    (hms : d.members? = some ms) (hgiven : given ms name = some field) :
    Option.Rel (fun doc v => doc.toJson? = some v) field (value.get? name) := by
  obtain ⟨vs, rfl, hall⟩ := toJson?_of_members? hvalue hms
  have hfilter : List.Forall₂ (fun m v => m.1 = v.1 ∧ m.2.toJson? = some v.2)
      (ms.filter fun m => m.1 == name) (vs.filter fun v => v.1 == name) :=
    List.rel_filter (fun m v hmv => by simp [hmv.1]) hall
  rw [Json.get?_object, get?_ofList, get?_eq_head?_filter, List.filter_reverse]
  rw [given] at hgiven
  split at hgiven
  · rename_i hnone
    cases hgiven
    rw [hnone, List.forall₂_nil_left_iff] at hfilter
    rw [hfilter]
    exact .none
  · rename_i m hone
    cases hgiven
    rw [hone] at hfilter
    obtain ⟨v, rest, hv, hrest, hvs⟩ := List.forall₂_cons_left_iff.1 hfilter
    rw [List.forall₂_nil_left_iff] at hrest
    rw [hvs, hrest]
    exact .some hv.2
  · cases hgiven

/-- The fields that a reader is given are those of the value. -/
theorem get?_of_fields? {d : Document} {value : Json} {names : List String}
    {fields : List (Option Document)} (hvalue : d.toJson? = some value)
    (h : d.fields? names = some fields) :
    List.Forall₂ (fun name field =>
      Option.Rel (fun doc v => doc.toJson? = some v) field (value.get? name)) names fields := by
  obtain ⟨ms, hms, hfields⟩ := Option.bind_eq_some_iff.1 h
  exact (forall₂_of_mapM_eq_some hfields).imp fun name field hgiven =>
    get?_of_given hvalue hms hgiven

/-- What a reader makes of an optional field: nothing of null, something of all else. -/
theorem optional_eq_some {α : Type} {read : Document → Option α} {field : Option Document}
    {result : Option α} (h : optional read field = some result) :
    (result = none ∧ (field = none ∨ field = some .null)) ∨
      ∃ doc a, field = some doc ∧ doc ≠ .null ∧ read doc = some a ∧ result = some a := by
  cases field with
  | none =>
      cases h
      exact .inl ⟨rfl, .inl rfl⟩
  | some doc =>
      cases doc with
      | null =>
          cases h
          exact .inl ⟨rfl, .inr rfl⟩
      | _ =>
          obtain ⟨a, ha, rfl⟩ := Option.map_eq_some_iff.1 h
          exact .inr ⟨_, a, rfl, by simp, ha, rfl⟩

end Document

end RunnerRelease
