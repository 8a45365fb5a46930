import CallWatch.Document
import CallWatch.Proofs.Records

/-!
What a structure says in a document, field by field.
-/

namespace CallWatch.Document

variable {d : Dialect} {s : Shape} {v : Document} {name : String}

/-- What a structure says under a name: in a record by the name, in a list by its place. -/
def lookup? (s : Shape) (name : String) : Document → Option Document
  | record fields => Record.get? fields name
  | list items => Record.get? (s.names.zip items) name
  | _ => none

lemma get?_of_fields? {r : Record Document} (h : v.fields? d s = some r)
    (hname : name ∈ s.names) : r.get? name = v.lookup? s name := by
  match v with
  | record fields =>
    rw [fields?, Shape.ofRecord?] at h
    split at h
    · exact absurd h nofun
    · rw [← Option.some.inj h]
      exact Record.get?_filter hname fields
  | list items =>
    rw [fields?] at h
    split at h
    · rw [← Option.some.inj h]
      rfl
    · exact absurd h nofun
  | null | bool _ | int _ | text _ | other => exact absurd h nofun

/-- A record of different names, all of them known, has the shape. -/
lemma fields?_record {fields : List (String × Document)} {names : List String}
    (h : fields.map Prod.fst = names) (hknown : ∀ k ∈ names, k ∈ s.names) (hnodup : names.Nodup) :
    (record fields).fields? d s = some fields := by
  have hall : (fields.filter fun f => s.names.contains f.1) = fields := by
    refine List.filter_eq_self.mpr fun f hf => ?_
    exact List.contains_iff_mem.mpr (hknown f.1 (h ▸ List.mem_map_of_mem hf))
  rw [fields?, Shape.ofRecord?, hall]
  simp [h, hnodup]

/-- A record with just the names of a shape has that shape. -/
lemma fields?_record_names {fields : List (String × Document)}
    (h : fields.map Prod.fst = s.names) (hnodup : s.names.Nodup) :
    (record fields).fields? d s = some fields := fields?_record h (fun _ hk => hk) hnodup

end CallWatch.Document
