import P11Prov.Sequence.Writers
import P11Prov.Uri.Slices

/-!
# The order of the components

A component of a URI writes one field of what `p11prov_parse_uri` makes, or none if
its name is not in the table (`writes_parseComponent`). So the order of components
that write different fields is of no matter, nor is it which delimiters are between
them (`parseUriAt_perm`). This is about the parser of the source, whose handlers get
the rest of the URI and not only their component.
-/

namespace P11Prov

/-- The fields of a URI. -/
inductive UriField
  | libraryDescription
  | libraryManufacturer
  | libraryVersion
  | token
  | manufacturer
  | model
  | serial
  | slotDescription
  | slotId
  | slotManufacturer
  | id
  | object
  | type
  | pin
  deriving DecidableEq

/-- Takes the field from the first URI. -/
def UriField.copy (src dst : Uri) : UriField → Uri
  | .libraryDescription => { dst with libraryDescription := src.libraryDescription }
  | .libraryManufacturer => { dst with libraryManufacturer := src.libraryManufacturer }
  | .libraryVersion => { dst with libraryVersion := src.libraryVersion }
  | .token => { dst with token := src.token }
  | .manufacturer => { dst with manufacturer := src.manufacturer }
  | .model => { dst with model := src.model }
  | .serial => { dst with serial := src.serial }
  | .slotDescription => { dst with slotDescription := src.slotDescription }
  | .slotId => { dst with slotId := src.slotId }
  | .slotManufacturer => { dst with slotManufacturer := src.slotManufacturer }
  | .id => { dst with id := src.id }
  | .object => { dst with object := src.object }
  | .type => { dst with type := src.type }
  | .pin => { dst with pin := src.pin }

/-- The fields that components write, by their names in the order of the table. -/
def uriFields : List (Bytes × UriField) :=
  [(ascii "library-description", .libraryDescription),
    (ascii "library-manufacturer", .libraryManufacturer), (ascii "library-version", .libraryVersion),
    (ascii "token", .token), (ascii "manufacturer", .manufacturer), (ascii "model", .model),
    (ascii "serial", .serial), (ascii "slot-description", .slotDescription),
    (ascii "slot-id", .slotId), (ascii "slot-manufacturer", .slotManufacturer), (ascii "id", .id),
    (ascii "object", .object), (ascii "type", .type), (ascii "pin-value", .pin),
    (ascii "pin-source", .pin), (ascii "object-type", .type)]

/-- The field that a component writes. -/
def componentField (p : Bytes) : Option UriField :=
  (uriFields.find? fun e => (e.1 ++ [0x3D]).isPrefixOf p).map (·.2)

variable {files : PinFiles} {c : UriComponent} {f g : UriField} {u : Uri} {p : Bytes}

/-- Different fields are apart. -/
theorem UriField.copy_comm (x y s : Uri) (h : f ≠ g) :
    f.copy x (g.copy y s) = g.copy y (f.copy x s) := by
  cases f <;> cases g <;> first | rfl | exact absurd rfl h

/-- The handler of a component writes the field, the same way whatever the URI was. -/
def UriComponent.Writes (c : UriComponent) (f : UriField) : Prop :=
  ∀ str u, c.handler str u = (c.handler str {}).map (f.copy · u)

/-- A handler that parses its value and assigns it. -/
theorem UriComponent.Writes.parse {α : Type} {attr : Bytes} (parse : Bytes → Except Errno α)
    (set : α → Uri → Uri) (h : ∀ v u, set v u = f.copy (set v {}) u) :
    UriComponent.Writes ⟨attr, fun str u => parse str >>= fun v => pure (set v u)⟩ f := by
  intro str u
  rcases hv : parse str with e | v
  · simp [hv, bind, Except.bind, Except.map]
  · simp [hv, bind, Except.bind, Except.map, pure, Except.pure, ← h v u]

/-- The handlers of the table write the fields. -/
theorem ucmap_writes (files : PinFiles) :
    List.Forall₂ (fun c e => c.attr = e.1 ∧ c.Writes e.2) (ucmap files) uriFields := by
  refine .cons ⟨rfl, .parse parseUtf8str (fun v u => { u with libraryDescription := some v }) fun _ _ => rfl⟩ ?_
  refine .cons ⟨rfl, .parse parseUtf8str (fun v u => { u with libraryManufacturer := some v }) fun _ _ => rfl⟩ ?_
  refine .cons ⟨rfl, .parse parseVersion (fun v u => { u with libraryVersion := v }) fun _ _ => rfl⟩ ?_
  refine .cons ⟨rfl, .parse parseUtf8str (fun v u => { u with token := some v }) fun _ _ => rfl⟩ ?_
  refine .cons ⟨rfl, .parse parseUtf8str (fun v u => { u with manufacturer := some v }) fun _ _ => rfl⟩ ?_
  refine .cons ⟨rfl, .parse parseUtf8str (fun v u => { u with model := some v }) fun _ _ => rfl⟩ ?_
  refine .cons ⟨rfl, .parse parseUtf8str (fun v u => { u with serial := some v }) fun _ _ => rfl⟩ ?_
  refine .cons ⟨rfl, .parse parseUtf8str (fun v u => { u with slotDescription := some v }) fun _ _ => rfl⟩ ?_
  refine .cons ⟨rfl, .parse parseUlong (fun v u => { u with slotId := v }) fun _ _ => rfl⟩ ?_
  refine .cons ⟨rfl, .parse parseUtf8str (fun v u => { u with slotManufacturer := some v }) fun _ _ => rfl⟩ ?_
  refine .cons ⟨rfl, .parse parseAttr (fun v u => { u with id := some v }) fun _ _ => rfl⟩ ?_
  refine .cons ⟨rfl, .parse parseUtf8str (fun v u => { u with object := some v }) fun _ _ => rfl⟩ ?_
  refine .cons ⟨rfl, .parse parseClass (fun v u => { u with type := v }) fun _ _ => rfl⟩ ?_
  refine .cons ⟨rfl, .parse parseUtf8str (fun v u => { u with pin := some v }) fun _ _ => rfl⟩ ?_
  refine .cons ⟨rfl, .parse (getPinFile files) (fun v u => { u with pin := some v }) fun _ _ => rfl⟩ ?_
  refine .cons ⟨rfl, .parse parseClass (fun v u => { u with type := v }) fun _ _ => rfl⟩ ?_
  exact .nil

/-- The component that a text is for writes its field. -/
theorem find_writes {cs : List UriComponent} {fields : List (Bytes × UriField)}
    (h : List.Forall₂ (fun c e => c.attr = e.1 ∧ c.Writes e.2) cs fields) (p : Bytes) :
    (cs.find? (fun c => (c.attr ++ [0x3D]).isPrefixOf p) = none ∧
      fields.find? (fun e => (e.1 ++ [0x3D]).isPrefixOf p) = none) ∨
    ∃ c e, cs.find? (fun c => (c.attr ++ [0x3D]).isPrefixOf p) = some c ∧
      fields.find? (fun e => (e.1 ++ [0x3D]).isPrefixOf p) = some e ∧ c.Writes e.2 := by
  induction h with
  | nil => exact .inl ⟨rfl, rfl⟩
  | @cons c e cs fields hce _ ih =>
    obtain ⟨hattr, hwrites⟩ := hce
    by_cases hp : (c.attr ++ [0x3D]).isPrefixOf p = true
    · have hp' : (e.1 ++ [0x3D]).isPrefixOf p = true := hattr ▸ hp
      exact .inr ⟨c, e, List.find?_cons_of_pos hp, List.find?_cons_of_pos hp', hwrites⟩
    · have hp' : ¬(e.1 ++ [0x3D]).isPrefixOf p = true := hattr ▸ hp
      have hcs : (c :: cs).find? (fun c => (c.attr ++ [0x3D]).isPrefixOf p) =
          cs.find? fun c => (c.attr ++ [0x3D]).isPrefixOf p := List.find?_cons_of_neg hp
      have hfields : (e :: fields).find? (fun e => (e.1 ++ [0x3D]).isPrefixOf p) =
          fields.find? fun e => (e.1 ++ [0x3D]).isPrefixOf p := List.find?_cons_of_neg hp'
      rw [hcs, hfields]
      exact ih

/-- The components of a URI write their fields. -/
theorem writes_parseComponent (files : PinFiles) :
    Writers.Writes (parseComponent files) componentField (fun f x u => f.copy x u) {} where
  skips u p h := by
    rcases find_writes (ucmap_writes files) p with ⟨hc, -⟩ | ⟨c, e, -, he, -⟩
    · rw [parseComponent, hc]
    · rw [componentField, he] at h
      cases h
  writes u p f h := by
    rcases find_writes (ucmap_writes files) p with ⟨-, he⟩ | ⟨c, e, hc, he, hwrites⟩
    · rw [componentField, he] at h
      cases h
    · rw [componentField, he] at h
      obtain rfl := Option.some.inj h
      rw [parseComponent, parseComponent, hc]
      exact hwrites _ u
  apart f g x y s h := UriField.copy_comm x y s h

/-! ## The text of a URI -/

/-- The components with delimiters between them; where none is given it is a semicolon. -/
def joinComponents : List Bytes → List UInt8 → Bytes
  | [], _ => []
  | [p], _ => p
  | p :: ps, [] => p ++ 0x3B :: joinComponents ps []
  | p :: ps, d :: ds => p ++ d :: joinComponents ps ds

/-- The URI with these components. -/
def uriOf (ps : List Bytes) (delims : List UInt8) : Bytes :=
  ascii "pkcs11:" ++ joinComponents ps delims

variable {ps ps' : List Bytes} {ds ds' : List UInt8}

/-- The components of the text are those that it was made of. -/
theorem words_joinComponents (hne : ps ≠ []) (hps : ∀ p ∈ ps, DelimFree p)
    (hds : ∀ d ∈ ds, isUriDelim d = true) : (joinComponents ps ds).splitOnP isUriDelim = ps := by
  have htail {p : Bytes} {ps : List Bytes} (h : ∀ q ∈ p :: ps, DelimFree q) :
      ∀ q ∈ ps, DelimFree q := fun q hq => h q (List.mem_cons_of_mem p hq)
  induction ps, ds using joinComponents.induct with
  | case1 => exact absurd rfl hne
  | case2 p ds =>
    rw [joinComponents]
    exact List.splitOnP_eq_singleton (hps p List.mem_cons_self)
  | case3 p ps hps' ih =>
    rw [joinComponents, List.splitOnP_append_cons_of_forall_mem (hps p List.mem_cons_self) _ rfl,
      ih hps' (htail hps) hds]
    exact hps'
  | case4 p ps d ds hps' ih =>
    have hd : isUriDelim d = true := hds d List.mem_cons_self
    rw [joinComponents, List.splitOnP_append_cons_of_forall_mem (hps p List.mem_cons_self) _ hd,
      ih hps' (htail hps) fun d' hd' => hds d' (List.mem_cons_of_mem d hd')]
    exact hps'

theorem parseUri_uriOf (files : PinFiles) (hne : ps ≠ []) (hps : ∀ p ∈ ps, DelimFree p)
    (hds : ∀ d ∈ ds, isUriDelim d = true) :
    parseUri files (uriOf ps ds) = (ps.foldlM (parseComponent files) {}).toOption := by
  have hscheme : (ascii "pkcs11:").length = 7 := by decide
  rw [parseUri, uriOf, List.take_left' hscheme, if_pos rfl, List.drop_left' hscheme,
    words_joinComponents hne hps hds]

/-- The order of components that write different fields is of no matter, nor are the delimiters. -/
theorem parseUriAt_perm (files : PinFiles) (hperm : ps.Perm ps') (hps : ∀ p ∈ ps, DelimFree p)
    (hfields : (ps.filterMap componentField).Nodup) (hds : ∀ d ∈ ds, isUriDelim d = true)
    (hds' : ∀ d ∈ ds', isUriDelim d = true) :
    parseUriAt files (uriOf ps ds) = parseUriAt files (uriOf ps' ds') := by
  rw [parseUriAt_eq, parseUriAt_eq]
  by_cases hne : ps = []
  · subst hne
    obtain rfl := hperm.nil_eq
    rw [uriOf, uriOf, joinComponents, joinComponents]
  · have hne' : ps' ≠ [] := by
      rintro rfl
      exact hne hperm.eq_nil
    have hps' : ∀ p ∈ ps', DelimFree p := fun p hp => hps p (hperm.mem_iff.2 hp)
    rw [parseUri_uriOf files hne hps hds, parseUri_uriOf files hne' hps' hds']
    exact (writes_parseComponent files).perm hperm hfields {}

/-- Two components, with a name that is not in the table between them. -/
theorem parseUriAt_perm_id : parseUriAt (fun _ => .error .noent)
      (uriOf [ascii "id=%01", ascii "x=1", ascii "type=private"] [0x3B, 0x3F]) =
    parseUriAt (fun _ => .error .noent)
      (uriOf [ascii "type=private", ascii "id=%01", ascii "x=1"] [0x26]) := by
  refine parseUriAt_perm _ ?_ ?_ ?_ ?_ ?_
  · decide +kernel
  · decide +kernel
  · decide +kernel
  · decide +kernel
  · decide +kernel

end P11Prov
