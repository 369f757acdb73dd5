import PgCollections.Proofs.Postgres.Conversion

/-! # The types that values are sent under

The server describes a type for each placeholder.  `Argument.SentAs` says that an argument is sent
under a type: it is given with that type, and the bytes of a list name the element of the type by
its number in the server's catalogue (`ElementType.catalogNumber`).

Each case of `PgType.Conversion` is sent under the type that was described
(`Argument.sentAs_of_conversion`), with one exception: a list of `VARCHAR` is sent as a list of
`TEXT`.  The main statement is `PgGateway.sends_under_carrier`. -/

namespace PgCollections

/-- The number of the element's type in the server's catalogue. -/
def ElementType.catalogNumber : ElementType → Nat
  | bool => 16
  | int .two => 21
  | int .four => 23
  | int .eight => 20
  | float8 => 701
  | text => 25
  | varchar => 1043

/-- The number of the element type that the bytes of a list name.  The number of dimensions and the
mark for nulls stand before it. -/
def Datum.namedElement? (bytes : Bytes) : Option Int := do
  let (_, bytes) ← bytes.take? 8
  let (number, _) ← bytes.takeInt? 4
  return number

/-- The argument is given with the type, and the bytes of a list name the element of the type. -/
structure Argument.SentAs (argument : Argument) (type : PgType) : Prop where
  type_eq : argument.type = type
  element_eq : ∀ (element : ElementType) (bytes : Bytes), type = .list element →
    argument.bytes = some bytes → Datum.namedElement? bytes = some (element.catalogNumber : Int)

/-! ### Arguments -/

theorem Datum.namedElement?_encodeList (element : ElementType) (items : List Scalar) :
    namedElement? (encodeList element items) = some (element.oid : Int) := by
  have hroom : 2 * element.oid < 256 ^ 4 := by
    cases element with
    | int width => cases width <;> decide
    | _ => decide
  have hfront : (Bytes.ofNat 4 1 ++ Bytes.ofNat 4 0).length = 8 := rfl
  unfold namedElement? encodeList
  simp only [List.append_assoc]
  rw [← List.append_assoc, Bytes.take?_append hfront]
  simp only [Option.bind_eq_bind, Option.bind_some, Bytes.takeInt?_append hroom]
  rfl

theorem ElementType.oid_eq (element : ElementType) : element.oid = element.sent.catalogNumber := by
  cases element with
  | int width => cases width <;> rfl
  | _ => rfl

/-- The type that a value for a placeholder is sent under.  This is the type of the placeholder, but
lists of both kinds of texts are sent as lists of `TEXT`. -/
def PgType.carrier (type : PgType) (v : Json) : PgType :=
  if type = .list .varchar ∧ v.isNull = false then .list .text else type

theorem PgType.carrier_list (element : ElementType) (items : List Json) :
    (PgType.list element).carrier (.array items) = .list element.sent := by
  cases element <;> rfl

theorem PgType.carrier_of_ne {type : PgType} {v : Json}
    (h : type = .list .varchar → v.isNull) : type.carrier v = type := by
  refine if_neg ?_
  rintro ⟨htype, hv⟩
  rw [h htype] at hv
  cases hv

namespace Argument

variable {type : PgType} {v : Json} {datum : Option Datum}

theorem sentAs_none (type : PgType) : (ofDatum type none).SentAs type :=
  ⟨rfl, fun _ _ _ hbytes => by cases hbytes⟩

theorem sentAs_of_type_eq (h : (ofDatum type datum).type = type)
    (hlist : ∀ element, type ≠ .list element) : (ofDatum type datum).SentAs type :=
  ⟨h, fun element _ htype => absurd htype (hlist element)⟩

theorem sentAs_list (element : ElementType) (items : List Scalar) :
    (ofDatum (.list element) (some (.list element items))).SentAs (.list element.sent) where
  type_eq := rfl
  element_eq := by
    intro named bytes htype hbytes
    obtain rfl := PgType.list.inj htype
    obtain rfl := Option.some.inj hbytes
    rw [← element.oid_eq]
    exact Datum.namedElement?_encodeList element items

/-- Whatever a value is converted to is sent under the type that carries it. -/
theorem sentAs_of_conversion (h : type.Conversion v datum) :
    (ofDatum type datum).SentAs (type.carrier v) := by
  cases h with
  | null hv =>
      rw [PgType.carrier_of_ne fun _ => hv]
      exact sentAs_none type
  | @list element items xs hread =>
      rw [PgType.carrier_list]
      exact sentAs_list element xs
  | json hv | jsonb hv => exact sentAs_of_type_eq rfl (by simp)
  | @scalar type v x htype hv hread =>
      have hlist : ∀ element, type ≠ .list element := by
        rintro element rfl
        cases htype
      rw [PgType.carrier_of_ne fun hvarchar => absurd hvarchar (hlist .varchar)]
      exact sentAs_of_type_eq (Scalar.type?_of_ofJson hread) hlist

/-- What is sent under its carrier is sent as described unless this is another type. -/
theorem sentAs_iff {argument : Argument} (h : argument.SentAs (type.carrier v)) :
    argument.SentAs type ↔ (type = .list .varchar → v.isNull) := by
  constructor
  · rintro hsent rfl
    by_contra hv
    have htext : (PgType.list .varchar).carrier v = .list .text :=
      if_pos ⟨rfl, Bool.eq_false_iff.mpr hv⟩
    have htypes := hsent.type_eq.symm.trans h.type_eq
    rw [htext] at htypes
    cases htypes
  · intro hne
    rwa [PgType.carrier_of_ne hne] at h

/-- The items of a list are values of the element type. -/
theorem items_of_conversion {element : ElementType} {xs : List Scalar}
    (h : type.Conversion v (some (.list element xs))) :
    type = .list element ∧ ∀ x ∈ xs, x.type?.getD element.type = element.type := by
  cases h with
  | list hread =>
      refine ⟨rfl, fun x hx => ?_⟩
      obtain ⟨w, hw⟩ := exists_forall₂_iff.mp ⟨_, hread.flip⟩ x hx
      exact Scalar.type?_of_ofJson hw

end Argument

namespace PgGateway

/-- A value that is converted is sent under the type described for its placeholder unless it is a
list for a placeholder of lists of `VARCHAR`, which is sent as a list of `TEXT`.  The items of a
list are values of its element type.  The argument is what the server gets for the placeholder
whenever a statement with the value is executed. -/
theorem sends_under_carrier {type : PgType} {v : Json} {datum : Option Datum}
    (h : type.convert v = .ok datum) :
    let argument := Argument.ofDatum type datum
    argument.SentAs (type.carrier v) ∧
    (argument.SentAs type ↔ (type = .list .varchar → v.isNull)) ∧
    (∀ element items, datum = some (.list element items) →
      type = .list element ∧ ∀ x ∈ items, x.type?.getD element.type = element.type) ∧
    ∀ (τ : Type) (gateway : PgGateway τ) (statement : Statement) (start : τ)
      (execution : Execution), execution ∈ (gateway.course statement start).executions →
      ∃ description ready, gateway.server.Describes statement.sql start description ready ∧
        description.parameters.length = statement.params.length ∧
        execution.arguments.length = statement.params.length ∧
        ∀ i : Nat, description.parameters[i]? = some type → statement.params[i]? = some v →
          execution.arguments[i]? = some argument := by
  intro argument
  have hconversion := PgType.conversion_of_convert h
  have hcarrier := Argument.sentAs_of_conversion hconversion
  refine ⟨hcarrier, Argument.sentAs_iff hcarrier, ?_, ?_⟩
  · rintro element items rfl
    exact Argument.items_of_conversion hconversion
  · intro τ gateway statement start execution hexecution
    obtain ⟨description, ready, hready, haccepts⟩ :=
      exists_accepts_of_executions (List.ne_nil_of_mem hexecution)
    obtain ⟨arguments, hlength, hplaces, hcourse⟩ := course_of_accepted hready haccepts
    rw [hcourse] at hexecution
    obtain rfl := List.mem_singleton.mp hexecution
    refine ⟨description, ready, hready, haccepts.1, hlength, ?_⟩
    intro i htype hv
    obtain ⟨converted, hconverted, hplace⟩ := hplaces i type v htype hv
    obtain rfl := Except.ok.inj (h.symm.trans hconverted)
    exact hplace

/-- A server that knows one statement, with placeholders for a list and for an address. -/
def addressScript : ServerScript where
  pool := { size := 1 }
  description := .ok { parameters := [.list (.int .two), .other "INET"] }
  completion := .ok { tag := "UPDATE 1" }

/-- A list of small integers names its element, and a text is sent under a type that the library
does not know otherwise. -/
theorem sends_under_carrier_address :
    let gateway : PgGateway ServerScript := .ofPool .scripted false
    let course := gateway.course ⟨"q", [.array [.nat 7], .string "::1"]⟩ addressScript
    ∃ list address : Argument, course.executions = [⟨"q", [list, address]⟩] ∧
      list.SentAs (.list (.int .two)) ∧ address.SentAs (.other "INET") ∧
      list.bytes.bind Datum.namedElement? = some 21 := by
  intro gateway course
  have hlist : (PgType.list (.int .two)).convert (.array [.nat 7]) =
    .ok (some (.list (.int .two) [.int .two 7])) := rfl
  have haddress : (PgType.other "INET").convert (.string "::1") =
    .ok (some (.scalar (.text "::1"))) := rfl
  obtain ⟨-, hlistSent, -, hexecuted⟩ := sends_under_carrier hlist
  obtain ⟨-, haddressSent, -, hexecuted'⟩ := sends_under_carrier haddress
  have hsent := hlistSent.mpr nofun
  obtain ⟨list, address, hcourse⟩ : ∃ list address, course.executions = [⟨"q", [list, address]⟩] :=
    ⟨_, _, rfl⟩
  have hmem := hcourse ▸ List.mem_singleton_self _
  obtain ⟨description, ready, ⟨acquired, hacquire, hdescribe⟩, -, -, hplaces⟩ :=
    hexecuted ServerScript gateway ⟨"q", [.array [.nat 7], .string "::1"]⟩ addressScript _ hmem
  obtain ⟨description', ready', ⟨acquired', hacquire', hdescribe'⟩, -, -, hplaces'⟩ :=
    hexecuted' ServerScript gateway ⟨"q", [.array [.nat 7], .string "::1"]⟩ addressScript _ hmem
  cases hacquire
  cases hdescribe
  cases hacquire'
  cases hdescribe'
  obtain rfl := Option.some.inj (hplaces 0 rfl rfl)
  obtain rfl := Option.some.inj (hplaces' 1 rfl rfl)
  exact ⟨_, _, hcourse, hsent, haddressSent.mpr nofun, hsent.element_eq _ _ rfl rfl⟩

/-- A list of `VARCHAR` is sent as a list of `TEXT`, with the number of that element. -/
theorem sends_under_carrier_varchar :
    ∃ datum, (PgType.list .varchar).convert (.array [.string "a"]) = .ok datum ∧
      Argument.ofDatum (.list .varchar) datum = ⟨.list .text, some
        [0, 0, 0, 1, 0, 0, 0, 0, 0, 0, 0, 25, 0, 0, 0, 1, 0, 0, 0, 1, 0, 0, 0, 1, 97]⟩ ∧
      ¬ (Argument.ofDatum (.list .varchar) datum).SentAs (.list .varchar) := by
  refine ⟨some (.list .varchar [.text "a"]), rfl, by decide +kernel, ?_⟩
  rintro ⟨htype, -⟩
  cases htype

end PgGateway

end PgCollections
