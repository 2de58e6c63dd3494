import ClusterMember.Proofs.Document.Composition
import ClusterMember.Proofs.Identity.Sources
import ClusterMember.Proofs.Net.Address

/-!
# Identities in JSON

The JSON text of an identity spells that identity, whatever its host name and its address look like.
So do the same members in another order and with any others between them, and the list of the four
values.
-/

namespace ClusterMember

namespace Document

variable {name : String} {value : Document} {entries others : List (String × Document)}

theorem valuesOf_perm (perm : entries.Perm others) (name : String) :
    (valuesOf name entries).Perm (valuesOf name others) :=
  (perm.filter _).map _

theorem valuesOf_append (name : String) (entries others : List (String × Document)) :
    valuesOf name (entries ++ others) = valuesOf name entries ++ valuesOf name others := by
  rw [valuesOf, List.filter_append, List.map_append, valuesOf, valuesOf]

theorem valuesOf_eq_nil (absent : ∀ entry ∈ entries, entry.1 ≠ name) :
    valuesOf name entries = [] := by
  rw [valuesOf, List.map_eq_nil_iff, List.filter_eq_nil_iff]
  intro entry mem
  simpa using absent entry mem

theorem single?_eq_some (values_eq : valuesOf name entries = [value]) :
    single? name entries = some value := by
  rw [single?, values_eq]

end Document

namespace Identity

/-- The members of an identity, in the order in which they are written. -/
def members (identity : Identity) : List (String × String) :=
  [("host", Json.write (.str identity.host)),
    ("ip", Json.write (.optional (fun ip => .str ip.text) identity.ip)),
    ("port", Json.write (.nat identity.port.toNat)),
    ("start_time", Json.write (.nat identity.startTime.toNat))]

/-- The entries that these members spell. -/
def entries (identity : Identity) : List (String × Document) :=
  [("host", .str identity.host), ("ip", .optional (fun ip => .str ip.text) identity.ip),
    ("port", .nat identity.port.toNat), ("start_time", .nat identity.startTime.toNat)]

/-- A member that is none of an identity, with any value. -/
structure Unknown (member : String × String) : Prop where
  name_not_mem : member.1 ∉ ["host", "ip", "port", "start_time"]
  spells : Json.IsText member.2

/-- Texts that spell an identity. -/
structure ReadBack (identity : Identity) : Prop where
  json_eq : identity.json = Json.tableText identity.members
  whole : ofJson identity.json = .ok identity
  /-- The members may stand in any order, and any unknown ones between them. -/
  among : ∀ members unknown, members.Perm (identity.members ++ unknown) →
    (∀ member ∈ unknown, Unknown member) → ofJson (Json.tableText members) = .ok identity
  /-- The values may stand in a list, in the order in which they are written. -/
  list : ofJson (Json.listText (identity.members.map Prod.snd)) = .ok identity

theorem json_eq_tableText (identity : Identity) :
    identity.json = Json.tableText identity.members := by
  simp [json, Json.write, Json.tableText, members, toDocument, Json.compact, Json.compactEntries,
    Json.memberText, List.intercalate]

theorem read?_write_address (ip : Option IpAddress) :
    Json.read? (Json.write (.optional (fun ip => .str ip.text) ip)) =
      some (.optional (fun ip => .str ip.text) ip) := by
  cases ip with
  | none => exact Json.read?_write_null
  | some ip => exact Json.read?_write_str ip.text

theorem addressOf?_optional (ip : Option IpAddress) :
    addressOf? (.optional (fun ip => .str ip.text) ip) = some ip := by
  cases ip with
  | none => rfl
  | some ip =>
      rw [Document.optional, addressOf?, IpAddress.ofString?_text]
      rfl

variable (identity : Identity)

theorem isText_of_mem_members : ∀ member ∈ identity.members, Json.IsText member.2 := by
  simp only [members, List.forall_mem_cons, List.not_mem_nil, false_implies, implies_true, and_true]
  exact ⟨⟨_, Json.read?_write_str _⟩, ⟨_, read?_write_address _⟩, ⟨_, Json.read?_write_nat _⟩,
    ⟨_, Json.read?_write_nat _⟩⟩

theorem map_entryOf_members : identity.members.map Json.entryOf = identity.entries := by
  simp only [members, List.map_cons, List.map_nil, Json.entryOf, entries,
    Json.documentOf_eq (Json.read?_write_str _), Json.documentOf_eq (Json.read?_write_nat _),
    Json.documentOf_eq (read?_write_address _)]

variable {identity}

theorem ofJson_of_holds {text : String} {document : Document}
    (read : Json.read? text = some document) (holds : Source.Holds document identity.fields) :
    ofJson text = .ok identity := by
  have carries : Source.Carries (.json text) identity.fields := ⟨document, read, holds⟩
  have given := Source.identity?_eq_of_carries carries
  rw [IdentityFields.make_fields] at given
  exact toOption_eq_some_iff.1 given

/-- A document with the four values of an identity is that identity. -/
theorem holds_of_valuesOf? {document : Document}
    (values_eq : valuesOf? document =
      some (.str identity.host, .optional (fun ip => .str ip.text) identity.ip,
        .nat identity.port.toNat, .nat identity.startTime.toNat)) :
    Source.Holds document identity.fields := by
  have port_le : identity.port.toNat ≤ word16Max := Nat.le_of_lt_succ identity.port.toNat_lt
  have start_le : identity.startTime.toNat ≤ word64Max :=
    Nat.le_of_lt_succ identity.startTime.toNat_lt
  exact ⟨_, _, _, values_eq, addressOf?_optional _,
    (Spelling.natural _).read_eq_some_iff.2 ⟨rfl, port_le⟩,
    (Spelling.natural _).read_eq_some_iff.2 ⟨rfl, start_le⟩⟩

theorem ofJson_listText (identity : Identity) :
    ofJson (Json.listText (identity.members.map Prod.snd)) = .ok identity := by
  have spell : ∀ item ∈ identity.members.map Prod.snd, Json.IsText item :=
    List.forall_mem_map.2 (isText_of_mem_members identity)
  have values_eq : (identity.members.map Prod.snd).map Json.documentOf =
      identity.entries.map Prod.snd := by
    rw [← map_entryOf_members, List.map_map, List.map_map]
    rfl
  refine ofJson_of_holds (Json.read?_listText spell) (holds_of_valuesOf? ?_)
  rw [values_eq]
  rfl

/-- Under the name of a member, there is the value of that member and no other. -/
theorem valuesOf_of_perm {found unknown : List (String × Document)}
    (perm : found.Perm (identity.entries ++ unknown)) {name : String}
    (absent : ∀ entry ∈ unknown, entry.1 ≠ name) {value : Document}
    (value_eq : Document.valuesOf name identity.entries = [value]) :
    Document.valuesOf name found = [value] := by
  have values_perm := Document.valuesOf_perm perm name
  rw [Document.valuesOf_append, Document.valuesOf_eq_nil absent, List.append_nil, value_eq]
    at values_perm
  exact List.perm_singleton.1 values_perm

theorem ofJson_tableText {members unknown : List (String × String)}
    (perm : members.Perm (identity.members ++ unknown))
    (odd : ∀ member ∈ unknown, Unknown member) :
    ofJson (Json.tableText members) = .ok identity := by
  have spell : ∀ member ∈ members, Json.IsText member.2 := by
    intro member mem
    rcases List.mem_append.1 (perm.subset mem) with own | other
    · exact isText_of_mem_members identity member own
    · exact (odd member other).spells
  have entries_perm := perm.map Json.entryOf
  rw [List.map_append, map_entryOf_members] at entries_perm
  have absent (name : String) (known : name ∈ ["host", "ip", "port", "start_time"]) :
      ∀ entry ∈ unknown.map Json.entryOf, entry.1 ≠ name := by
    refine List.forall_mem_map.2 fun member mem => ?_
    rintro rfl
    exact (odd member mem).name_not_mem known
  have host_eq := valuesOf_of_perm entries_perm (absent "host" (by decide)) rfl
  have ip_eq := valuesOf_of_perm entries_perm (absent "ip" (by decide)) rfl
  have port_eq := valuesOf_of_perm entries_perm (absent "port" (by decide)) rfl
  have start_eq := valuesOf_of_perm entries_perm (absent "start_time" (by decide)) rfl
  refine ofJson_of_holds (Json.read?_tableText spell) (holds_of_valuesOf? ?_)
  simp only [valuesOf?, ip_eq, Document.single?_eq_some host_eq, Document.single?_eq_some ip_eq,
    Document.single?_eq_some port_eq, Document.single?_eq_some start_eq]
  rfl

/-- An identity is read back from its JSON text. -/
theorem json_readBack (identity : Identity) : identity.ReadBack where
  json_eq := json_eq_tableText identity
  whole := by
    rw [json_eq_tableText]
    exact ofJson_tableText (.of_eq (List.append_nil _).symm) fun _ mem =>
      absurd mem List.not_mem_nil
  among _ _ perm odd := ofJson_tableText perm odd
  list := ofJson_listText identity

/-- An identity whose host name is written with escapes, and whose address maps an IPv4 address. -/
def escapedHost : Identity :=
  ⟨"a\"\\\x01é", some (.v6 [0, 0, 0, 0, 0, 0xFFFF, 0x0A00, 1] rfl), 8080, 7, by decide +kernel⟩

/-- Its members from the last to the first, with an unknown one between them. -/
def strayMembers : List (String × String) :=
  [("start_time", "7"), ("zone", "[1.5, \x7b\x7d]"), ("port", "8080"),
    ("ip", "\"::ffff:10.0.0.1\""), ("host", "\"a\\\"\\\\\\u0001é\"")]

/-- Members that are out of order are read back in spite of the one that is unknown. -/
theorem json_readBack_of_stray :
    escapedHost.json = "\x7b\"host\":\"a\\\"\\\\\\u0001é\",\"ip\":\"::ffff:10.0.0.1\"," ++
        "\"port\":8080,\"start_time\":7\x7d" ∧
      ofJson (Json.tableText strayMembers) = .ok escapedHost := by
  have perm : strayMembers.Perm (escapedHost.members ++ [("zone", "[1.5, \x7b\x7d]")]) := by
    decide +kernel
  have spells : (Json.read? "[1.5, \x7b\x7d]").isSome = true := by decide +kernel
  have unknown : ∀ member ∈ [("zone", "[1.5, \x7b\x7d]")], Unknown member := by
    rintro member mem
    rw [List.mem_singleton.1 mem]
    exact ⟨by decide, Option.isSome_iff_exists.1 spells⟩
  exact ⟨by decide +kernel, (json_readBack escapedHost).among _ _ perm unknown⟩

end Identity
end ClusterMember
