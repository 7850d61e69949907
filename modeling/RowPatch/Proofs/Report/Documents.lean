import Mathlib.Data.List.Forall2
import RowPatch.Diagnostic

/-!
# Documents of reports

A report can be written in more than one way: members of an object come in any order and among
others, a finding may be a list of its parts, an absent field may be left out or `null`, and a name out
of a fixed set may stand in an object.  Which documents stand for a report is said here without the
readers, member by member.  The readers accept these documents and no others, and what they read
survives being written.

**Results.**
* `Json.member?_eq_some_iff`, `Json.variant?_eq_some_iff`, `Json.position?_eq_some_iff`: what the
  readers of parts accept.
* `Diagnostic.ofJson?_eq_some_iff`, `Report.ofJson?_eq_some_iff`: what is read from the documents that
  stand for a finding or for a report.
* `Report.ofJson?_toJson`: a written report reads back.
* `reports_survive_writing`: the three together.
-/

namespace RowPatch

namespace Json

/-- No object in the document repeats a name. -/
inductive Distinct : Json → Prop
  | null : Distinct .null
  | bool (b : Bool) : Distinct (.bool b)
  | whole (n : Int) : Distinct (.whole n)
  | decimal (negative : Bool) (digits : Nat) (scale : Int) :
      Distinct (.decimal negative digits scale)
  | string (s : String) : Distinct (.string s)
  | array {items : List Json} (hitems : ∀ j ∈ items, Distinct j) : Distinct (.array items)
  | object {members : List (String × Json)}
      (hnames : (members.map Prod.fst).Nodup)
      (hmembers : ∀ m ∈ members, Distinct m.2) :
      Distinct (.object members)

attribute [simp] Distinct.null Distinct.bool Distinct.whole Distinct.decimal Distinct.string

@[simp] theorem distinct_array_iff
    (items : List Json) :
    (array items).Distinct ↔ ∀ j ∈ items, j.Distinct := by
  constructor
  · rintro ⟨⟩
    assumption
  · exact .array

@[simp] theorem distinct_object_iff
    (members : List (String × Json)) :
    (object members).Distinct ↔
      (members.map Prod.fst).Nodup ∧ ∀ m ∈ members, m.2.Distinct := by
  constructor
  · rintro ⟨⟩
    exact ⟨‹_›, ‹_›⟩
  · rintro ⟨hnames, hmembers⟩
    exact .object hnames hmembers

theorem Distinct.of_mem
    {members : List (String × Json)}
    {name : String}
    {j : Json}
    (hdistinct : (Json.object members).Distinct)
    (hj : (name, j) ∈ members) :
    j.Distinct :=
  ((distinct_object_iff members).1 hdistinct).2 _ hj

theorem mem_of_member? {n : String} {j : Json} :
    ∀ members : List (String × Json), member? n members = some j → (n, j) ∈ members
  | [], h => by simp [member?] at h
  | (m, k) :: members, h => by
      rw [member?] at h
      split at h
      · rename_i hm
        cases h
        subst hm
        exact List.mem_cons_self
      · exact List.mem_cons_of_mem _ (mem_of_member? members h)

/-- Among distinct names the document under a name is the one that stands there. -/
theorem member?_eq_some_iff {n : String} {j : Json} :
    ∀ members : List (String × Json), (members.map Prod.fst).Nodup →
      (member? n members = some j ↔ (n, j) ∈ members)
  | [], _ => by simp [member?]
  | (m, k) :: members, hnames => by
      obtain ⟨hfresh, hrest⟩ := List.nodup_cons.1 hnames
      have ih := member?_eq_some_iff (n := n) (j := j) members hrest
      rw [member?, List.mem_cons, Prod.mk.injEq]
      split
      · rename_i hm
        subst hm
        have hno : (m, j) ∉ members := by
          intro hmem
          exact hfresh (List.mem_map.2 ⟨(m, j), hmem, rfl⟩)
        simp [hno, eq_comm]
      · rename_i hm
        rw [ih]
        simp [Ne.symm hm]

/-- The document stands for a name out of a fixed set. -/
inductive StandsForName (name : String) : Json → Prop
  | string : StandsForName name (.string name)
  | object : StandsForName name (.object [(name, .null)])

theorem variant?_eq_some_iff
    (j : Json)
    (name : String) :
    j.variant? = some name ↔ j.StandsForName name := by
  constructor
  · intro h
    unfold variant? at h
    split at h
    · cases h
      exact .string
    · cases h
      exact .object
    · cases h
  · rintro ⟨⟩ <;> rfl

theorem position?_eq_some_iff
    (j : Json)
    (n : Nat) :
    j.position? = some n ↔ j = .natural n ∧ n < positionLimit := by
  constructor
  · intro h
    unfold position? at h
    split at h
    · rename_i m
      split at h
      · rename_i hm
        cases h
        exact ⟨by rw [natural, Int.toNat_of_nonneg hm.1], hm.2⟩
      · cases h
    · cases h
  · rintro ⟨rfl, hn⟩
    rw [natural, position?, if_pos ⟨Int.natCast_nonneg n, hn⟩]
    rfl

theorem string?_eq_some_iff
    (j : Json)
    (s : String) :
    j.string? = some s ↔ j = .string s := by
  cases j <;> simp [string?]

/-- The member of an object that may be left out: absent, `null`, or a text. -/
inductive StandsForOptional : Option String → Option Json → Prop
  | absent : StandsForOptional none none
  | null : StandsForOptional none (some .null)
  | string (s : String) : StandsForOptional (some s) (some (.string s))

theorem optionalString?_eq_some_iff
    (j : Json)
    (s? : Option String) :
    j.optionalString? = some s? ↔ StandsForOptional s? (some j) := by
  constructor
  · intro h
    unfold optionalString? at h
    split at h
    · cases h
      exact .null
    · cases h
      exact .string _
    · cases h
  · rintro ⟨⟩ <;> rfl

end Json

theorem Severity.ofName?_eq_some_iff
    (name : String)
    (severity : Severity) :
    Severity.ofName? name = some severity ↔ name = severity.name := by
  cases severity
  simp [Severity.ofName?, Severity.name]

theorem DiagnosticKind.ofName?_eq_some_iff
    (name : String)
    (kind : DiagnosticKind) :
    DiagnosticKind.ofName? name = some kind ↔ name = kind.name := by
  constructor
  · intro h
    have hfound := List.find?_some h
    simpa [eq_comm] using hfound
  · rintro rfl
    cases kind <;> decide

namespace Diagnostic

/-- The documents of the five parts of a finding, the last of which may be absent. -/
structure HasParts (d : Diagnostic) (severity argument kind message : Json)
    (field? : Option Json) : Prop where
  severity : severity.StandsForName d.severity.name
  argument : argument = .natural d.argument ∧ d.argument < Json.positionLimit
  kind : kind.StandsForName d.kind.name
  message : message = .string d.message
  field : Json.StandsForOptional d.field? field?

/-- The document stands for the finding. -/
inductive StandsFor (d : Diagnostic) : Json → Prop
  /-- The parts are members of an object, in any order and among others. -/
  | object {members : List (String × Json)} {severity argument kind message : Json}
      {field? : Option Json}
      (hseverity : ("severity", severity) ∈ members)
      (hargument : ("argIndex", argument) ∈ members)
      (hkind : ("kind", kind) ∈ members)
      (hmessage : ("message", message) ∈ members)
      (hfield : ∀ j, field? = some j ↔ ("field", j) ∈ members)
      (hparts : d.HasParts severity argument kind message field?) :
      StandsFor d (.object members)
  /-- The parts are listed in order, without the last. -/
  | four {severity argument kind message : Json}
      (hparts : d.HasParts severity argument kind message none) :
      StandsFor d (.array [severity, argument, kind, message])
  /-- All the parts are listed in order. -/
  | five {severity argument kind message field : Json}
      (hparts : d.HasParts severity argument kind message (some field)) :
      StandsFor d (.array [severity, argument, kind, message, field])

theorem ofParts?_eq_some_iff
    (d : Diagnostic)
    (severity argument kind message : Json)
    (field? : Option Json) :
    ofParts? severity argument kind message field? = some d ↔
      d.HasParts severity argument kind message field? := by
  obtain ⟨severity', argument', kind', message', field'⟩ := d
  cases field? with
  | none =>
      simp only [ofParts?, Option.bind_eq_bind, Option.bind_eq_some_iff, Option.bind_some,
        Option.some.injEq, Json.variant?_eq_some_iff, Json.position?_eq_some_iff,
        Json.string?_eq_some_iff, Severity.ofName?_eq_some_iff, DiagnosticKind.ofName?_eq_some_iff]
      constructor
      · rintro ⟨_, ⟨_, hs, rfl⟩, _, ha, _, ⟨_, hk, rfl⟩, _, hm, ⟨⟩⟩
        exact ⟨hs, ha, hk, hm, .absent⟩
      · rintro ⟨hs, ha, hk, hm, ⟨⟩⟩
        exact ⟨_, ⟨_, hs, rfl⟩, _, ha, _, ⟨_, hk, rfl⟩, _, hm, rfl⟩
  | some field =>
      simp only [ofParts?, Option.bind_eq_bind, Option.bind_eq_some_iff, Option.some.injEq,
        Json.variant?_eq_some_iff, Json.position?_eq_some_iff, Json.string?_eq_some_iff,
        Json.optionalString?_eq_some_iff, Severity.ofName?_eq_some_iff,
        DiagnosticKind.ofName?_eq_some_iff]
      constructor
      · rintro ⟨_, ⟨_, hs, rfl⟩, _, ha, _, ⟨_, hk, rfl⟩, _, hm, _, hf, ⟨⟩⟩
        exact ⟨hs, ha, hk, hm, hf⟩
      · rintro ⟨hs, ha, hk, hm, hf⟩
        exact ⟨_, ⟨_, hs, rfl⟩, _, ha, _, ⟨_, hk, rfl⟩, _, hm, _, hf, rfl⟩

/-- What is read from an object is read from its members. -/
theorem ofJson?_object_eq_some_iff
    (d : Diagnostic)
    (members : List (String × Json)) :
    ofJson? (.object members) = some d ↔
      ∃ severity argument kind message,
        Json.member? "severity" members = some severity ∧
        Json.member? "argIndex" members = some argument ∧
        Json.member? "kind" members = some kind ∧
        Json.member? "message" members = some message ∧
        d.HasParts severity argument kind message (Json.member? "field" members) := by
  simp only [ofJson?, Option.bind_eq_bind, Option.bind_eq_some_iff, ofParts?_eq_some_iff]
  constructor
  · rintro ⟨severity, hs, argument, ha, kind, hk, message, hm, hparts⟩
    exact ⟨severity, argument, kind, message, hs, ha, hk, hm, hparts⟩
  · rintro ⟨severity, argument, kind, message, hs, ha, hk, hm, hparts⟩
    exact ⟨severity, hs, argument, ha, kind, hk, message, hm, hparts⟩

/-- A finding is read exactly from the documents that stand for it. -/
theorem ofJson?_eq_some_iff
    (d : Diagnostic)
    (j : Json)
    (hdistinct : j.Distinct) :
    ofJson? j = some d ↔ d.StandsFor j := by
  constructor
  · intro h
    unfold ofJson? at h
    split at h
    · rename_i members
      obtain ⟨severity, argument, kind, message, hs, ha, hk, hm, hparts⟩ :=
        (ofJson?_object_eq_some_iff d members).1 h
      have hnames := ((Json.distinct_object_iff members).1 hdistinct).1
      exact .object (Json.mem_of_member? members hs) (Json.mem_of_member? members ha)
        (Json.mem_of_member? members hk) (Json.mem_of_member? members hm)
        (fun j => Json.member?_eq_some_iff members hnames) hparts
    · exact .four ((ofParts?_eq_some_iff ..).1 h)
    · exact .five ((ofParts?_eq_some_iff ..).1 h)
    · cases h
  · rintro (⟨hs, ha, hk, hm, hf, hparts⟩ | hparts | hparts)
    · rename_i members severity argument kind message field?
      have hnames := ((Json.distinct_object_iff members).1 hdistinct).1
      have hfield : Json.member? "field" members = field? := by
        apply Option.ext
        intro j
        rw [Json.member?_eq_some_iff members hnames, hf]
      refine (ofJson?_object_eq_some_iff d members).2 ⟨severity, argument, kind, message,
        (Json.member?_eq_some_iff members hnames).2 hs,
        (Json.member?_eq_some_iff members hnames).2 ha,
        (Json.member?_eq_some_iff members hnames).2 hk,
        (Json.member?_eq_some_iff members hnames).2 hm, ?_⟩
      rw [hfield]
      exact hparts
    · exact (ofParts?_eq_some_iff ..).2 hparts
    · exact (ofParts?_eq_some_iff ..).2 hparts

/-- The argument of a finding that was read can be written. -/
theorem argument_lt_of_ofJson?
    (d : Diagnostic)
    (j : Json)
    (h : ofJson? j = some d) :
    d.argument < Json.positionLimit := by
  unfold ofJson? at h
  split at h
  · obtain ⟨_, _, _, _, -, -, -, -, hparts⟩ := (ofJson?_object_eq_some_iff d _).1 h
    exact hparts.argument.2
  · exact ((ofParts?_eq_some_iff ..).1 h).argument.2
  · exact ((ofParts?_eq_some_iff ..).1 h).argument.2
  · cases h

end Diagnostic

/-- A list is read item by item, in order. -/
theorem mapM_eq_some_iff
    {α β : Type}
    (f : α → Option β)
    (l : List α) :
    ∀ m : List β, l.mapM f = some m ↔ List.Forall₂ (fun b a => f a = some b) m l := by
  induction l with
  | nil =>
      intro m
      simp [eq_comm]
  | cons a l ih =>
      intro m
      simp only [List.mapM_cons, List.forall₂_cons_right_iff, Option.bind_eq_bind,
        Option.bind_eq_some_iff, Option.pure_def, Option.some.injEq, ih]
      constructor
      · rintro ⟨b, hb, m, hm, rfl⟩
        exact ⟨b, m, hb, hm, rfl⟩
      · rintro ⟨b, m, hb, hm, rfl⟩
        exact ⟨b, hb, m, hm, rfl⟩

namespace Report

/-- The document stands for the report: its list of documents that stand for the findings, in order, is
a member of an object or the one part of a list. -/
inductive StandsFor (r : Report) : Json → Prop
  | object {members : List (String × Json)} {items : List Json}
      (hitems : ("items", .array items) ∈ members)
      (hfindings : List.Forall₂ Diagnostic.StandsFor r.items items) :
      StandsFor r (.object members)
  | list {items : List Json}
      (hfindings : List.Forall₂ Diagnostic.StandsFor r.items items) :
      StandsFor r (.array [.array items])

theorem itemsOfJson?_eq_some_iff
    (r : Report)
    (j : Json) :
    itemsOfJson? j = some r ↔
      ∃ items, j = .array items ∧
        List.Forall₂ (fun d item => Diagnostic.ofJson? item = some d) r.items items := by
  obtain ⟨found⟩ := r
  cases j <;> simp [itemsOfJson?, mapM_eq_some_iff]

theorem forall₂_ofJson?_iff
    (items : List Json)
    (hdistinct : ∀ j ∈ items, j.Distinct) :
    ∀ found : List Diagnostic,
      List.Forall₂ (fun d j => Diagnostic.ofJson? j = some d) found items ↔
        List.Forall₂ Diagnostic.StandsFor found items := by
  induction items with
  | nil => simp
  | cons j items ih =>
      intro found
      obtain ⟨hj, hitems⟩ := List.forall_mem_cons.1 hdistinct
      simp only [List.forall₂_cons_right_iff, ih hitems, Diagnostic.ofJson?_eq_some_iff _ j hj]

/-- The findings of a report are read exactly from the lists of documents that stand for them. -/
theorem itemsOfJson?_array_eq_some_iff
    (r : Report)
    (items : List Json)
    (hdistinct : (Json.array items).Distinct) :
    itemsOfJson? (.array items) = some r ↔ List.Forall₂ Diagnostic.StandsFor r.items items := by
  rw [itemsOfJson?_eq_some_iff,
    ← forall₂_ofJson?_iff items ((Json.distinct_array_iff items).1 hdistinct)]
  simp

/-- A report is read exactly from the documents that stand for it. -/
theorem ofJson?_eq_some_iff
    (r : Report)
    (j : Json)
    (hdistinct : j.Distinct) :
    ofJson? j = some r ↔ r.StandsFor j := by
  constructor
  · intro h
    unfold ofJson? at h
    split at h
    · rename_i members
      obtain ⟨k, hk, h⟩ := Option.bind_eq_some_iff.1 h
      obtain ⟨items, rfl, -⟩ := (itemsOfJson?_eq_some_iff r k).1 h
      have hmem := Json.mem_of_member? members hk
      exact .object hmem
        ((itemsOfJson?_array_eq_some_iff r items (hdistinct.of_mem hmem)).1 h)
    · obtain ⟨items, rfl, -⟩ := (itemsOfJson?_eq_some_iff r _).1 h
      exact .list ((itemsOfJson?_array_eq_some_iff r items (by simpa using hdistinct)).1 h)
    · cases h
  · rintro (⟨hmem, hfindings⟩ | hfindings)
    · have hnames := ((Json.distinct_object_iff _).1 hdistinct).1
      refine Option.bind_eq_some_iff.2 ⟨_, (Json.member?_eq_some_iff _ hnames).2 hmem, ?_⟩
      exact (itemsOfJson?_array_eq_some_iff r _ (hdistinct.of_mem hmem)).2 hfindings
    · exact (itemsOfJson?_array_eq_some_iff r _ (by simpa using hdistinct)).2 hfindings

/-- A written report reads back, when the arguments of its findings can be written. -/
theorem ofJson?_toJson
    (r : Report)
    (h : ∀ d ∈ r.items, d.argument < Json.positionLimit) :
    ofJson? r.toJson = some r := by
  show itemsOfJson? (.array (r.items.map Diagnostic.toJson)) = some r
  refine (itemsOfJson?_eq_some_iff r _).2 ⟨_, rfl, ?_⟩
  rw [List.forall₂_map_right_iff, List.forall₂_same]
  exact fun d hd => d.ofJson?_toJson (h d hd)

/-- The arguments of the findings in a report that was read can be written. -/
theorem argument_lt_of_ofJson?
    (r : Report)
    (j : Json)
    (h : ofJson? j = some r) :
    ∀ d ∈ r.items, d.argument < Json.positionLimit := by
  obtain ⟨k, hk⟩ : ∃ k, itemsOfJson? k = some r := by
    unfold ofJson? at h
    split at h
    · obtain ⟨k, -, hk⟩ := Option.bind_eq_some_iff.1 h
      exact ⟨k, hk⟩
    · exact ⟨_, h⟩
    · cases h
  obtain ⟨items, -, hfindings⟩ := (itemsOfJson?_eq_some_iff r k).1 hk
  intro d hd
  obtain ⟨i, hi, rfl⟩ := List.mem_iff_getElem.1 hd
  exact Diagnostic.argument_lt_of_ofJson? _ _ (hfindings.get hi (hfindings.length_eq ▸ hi))

end Report

/-- A report whose arguments can be written reads back as it was, findings in the same order.  What is
read from any document is such a report, so it reads back too after it was written.  And where no object
repeats a name, a report is read exactly from the documents that stand for it. -/
theorem reports_survive_writing :
    (∀ r : Report, (∀ d ∈ r.items, d.argument < Json.positionLimit) →
        Report.ofJson? r.toJson = some r) ∧
      (∀ j r, Report.ofJson? j = some r → Report.ofJson? r.toJson = some r) ∧
      ∀ j : Json, j.Distinct → ∀ r, Report.ofJson? j = some r ↔ r.StandsFor j := by
  refine ⟨Report.ofJson?_toJson, ?_, fun j hdistinct r => r.ofJson?_eq_some_iff j hdistinct⟩
  intro j r h
  exact r.ofJson?_toJson (r.argument_lt_of_ofJson? j h)

/-- A report of three findings: an object with its members out of order and one more among them, a list
of five parts with an empty field, and a list of four with the last position that can be written. -/
theorem report_of_three_forms_survives :
    let first : Json := .object [("message", .string "no table"), ("field", .null),
      ("kind", .object [("needsTable", .null)]), ("note", .bool true), ("argIndex", .whole 0),
      ("severity", .string "error")]
    let second : Json := .array [.object [("error", .null)], .whole 2, .string "unknownField",
      .string "no such column", .string ""]
    let third : Json := .array [.string "error", .whole 18446744073709551615,
      .string "invalidArity", .string ""]
    let j : Json := .object [("version", .null), ("items", .array [first, second, third])]
    let r : Report := ⟨[.error 0 .needsTable "no table",
      .fieldError 2 .unknownField "" "no such column",
      .error 18446744073709551615 .invalidArity ""]⟩
    j.Distinct ∧ r.StandsFor j ∧ Report.ofJson? j = some r ∧ Report.ofJson? r.toJson = some r ∧
      ∀ d ∈ r.items, d.argument < Json.positionLimit := by
  intro first second third j r
  obtain ⟨hwritten, hread, hstands⟩ := reports_survive_writing
  have hdistinct : j.Distinct := by
    simp [j, first, second, third]
  have hj : Report.ofJson? j = some r := rfl
  have harguments : ∀ d ∈ r.items, d.argument < Json.positionLimit := by decide
  exact ⟨hdistinct, (hstands j hdistinct r).1 hj, hj, hread j r hj, harguments⟩

end RowPatch
