/-
# JSON without duplicate keys

`canonical_json_bytes_from_slice` of `remote-protocol/src/canonical.rs`. The tokenizer of
`serde_json` hands the document to the visitor as a tree of events; where it meets an error (bad
syntax, a limit) the tree has an `error`, or an array or object that fails instead of ending. The
visitor builds the value bottom-up and stops at the first key that its object has already.

`valueTree` is the value of a document, with the members of each object in the order of their keys,
as a `BTreeMap` has them. The visitor accepts exactly the trees that are fine in every node, and
returns their value (`visit_eq_ok`). What the canonicalizer makes of a value is not looked into.
-/
import Mathlib.Data.List.Sort
import Mathlib.Data.String.Basic
import Rctl.Lib.Result
import Rctl.Protocol.Canonical

namespace Rctl

open ByteString Result

/-- What the tokenizer calls the visitor with. -/
inductive JsonEvent
  | unit
  | none
  | bool (value : Bool)
  | i64 (value : Int64)
  | u64 (value : UInt64)
  /-- A double, by its bits. -/
  | f64 (bits : UInt64)
  | str (value : String)
  /-- The elements; then the array ends, or the tokenizer fails. -/
  | seq (elements : List JsonEvent) (failed : Bool)
  | map (members : List (String × JsonEvent)) (failed : Bool)
  /-- The tokenizer fails where a value is due. -/
  | error

inductive JsonNumber
  | posInt (value : UInt64)
  | negInt (value : Int64)
  | float (bits : UInt64)
  deriving DecidableEq, Repr

/-- `serde_json::Value`; the members of an object are in the order of their keys. -/
inductive JsonValue
  | null
  | bool (value : Bool)
  | number (value : JsonNumber)
  | string (value : String)
  | array (values : List JsonValue)
  | object (members : List (String × JsonValue))

inductive JsonError
  | tokenizer
  | nonFinite
  | duplicateKey
  deriving DecidableEq, Repr

def JsonNumber.ofI64 (value : Int64) : JsonNumber := if value < 0 then negInt value else posInt value.toUInt64

/-- `f64::is_finite`: the exponent is not all ones. -/
def isFinite (bits : UInt64) : Bool := (bits >>> 52) &&& 0x7ff != 0x7ff

def keyLe {V : Type} (a b : String × V) : Prop := a.1 ≤ b.1

instance {V : Type} : DecidableRel (keyLe : String × V → String × V → Prop) := fun a b =>
  inferInstanceAs (Decidable (a.1 ≤ b.1))

def containsKey {V : Type} (members : List (String × V)) (key : String) : Bool := members.any (·.1 == key)

def insertMember {V : Type} (members : List (String × V)) (key : String) (value : V) : List (String × V) :=
  (members.filter (·.1 != key)).orderedInsert keyLe (key, value)

mutual

def visit : JsonEvent → Except JsonError JsonValue
  | .unit => .ok .null
  | .none => .ok .null
  | .bool value => .ok (.bool value)
  | .i64 value => .ok (.number (.ofI64 value))
  | .u64 value => .ok (.number (.posInt value))
  | .f64 bits => if isFinite bits then .ok (.number (.float bits)) else .error .nonFinite
  | .str value => .ok (.string value)
  | .seq elements failed => (visitSeq elements failed []).map .array
  | .map members failed => (visitMap members failed []).map .object
  | .error => .error .tokenizer

def visitSeq : List JsonEvent → Bool → List JsonValue → Except JsonError (List JsonValue)
  | [], failed, values => if failed then .error .tokenizer else .ok values
  | element :: elements, failed, values => do
    let value ← visit element
    visitSeq elements failed (values ++ [value])

def visitMap : List (String × JsonEvent) → Bool → List (String × JsonValue) →
    Except JsonError (List (String × JsonValue))
  | [], failed, values => if failed then .error .tokenizer else .ok values
  | (key, member) :: members, failed, values =>
    -- The key is looked up before its value is read.
    if containsKey values key then .error .duplicateKey
    else do
      let value ← visit member
      visitMap members failed (insertMember values key value)

end

/-- A document: the events of its value, and whether something follows it. -/
structure JsonDocument where
  root : JsonEvent
  trailing : Bool

def canonicalJsonBytesFromSlice (canonicalJsonBytes : JsonValue → Except CanonicalError Bytes)
    (document : JsonDocument) : Except CanonicalError Bytes := do
  let value ← (visit document.root).mapError fun _ => CanonicalError.jsonCanonicalization
  ensure (!document.trailing) .jsonCanonicalization
  canonicalJsonBytes value

/-! ### The value of a document -/

mutual

/-- The nodes of the tree, at every depth. -/
def JsonEvent.nodes : JsonEvent → List JsonEvent
  | .seq elements failed => .seq elements failed :: nodesOfElements elements
  | .map members failed => .map members failed :: nodesOfMembers members
  | .unit => [.unit]
  | .none => [.none]
  | .bool value => [.bool value]
  | .i64 value => [.i64 value]
  | .u64 value => [.u64 value]
  | .f64 bits => [.f64 bits]
  | .str value => [.str value]
  | .error => [.error]

def nodesOfElements : List JsonEvent → List JsonEvent
  | [] => []
  | element :: elements => element.nodes ++ nodesOfElements elements

def nodesOfMembers : List (String × JsonEvent) → List JsonEvent
  | [] => []
  | (_, member) :: members => member.nodes ++ nodesOfMembers members

end

def JsonEvent.keys : JsonEvent → List String
  | .map members _ => members.map Prod.fst
  | _ => []

def JsonEvent.finite : JsonEvent → Bool
  | .f64 bits => isFinite bits
  | _ => true

/-- The tokenizer does not fail here. -/
def JsonEvent.delivered : JsonEvent → Bool
  | .seq _ failed => !failed
  | .map _ failed => !failed
  | .error => false
  | _ => true

mutual

/-- The value of a document: its arrays in order, its objects in the order of their keys. -/
def valueTree : JsonEvent → JsonValue
  | .unit => .null
  | .none => .null
  | .bool value => .bool value
  | .i64 value => .number (.ofI64 value)
  | .u64 value => .number (.posInt value)
  | .f64 bits => .number (.float bits)
  | .str value => .string value
  | .seq elements _ => .array (elementTrees elements)
  | .map members _ => .object ((memberTrees members).insertionSort keyLe)
  | .error => .null

def elementTrees : List JsonEvent → List JsonValue
  | [] => []
  | element :: elements => valueTree element :: elementTrees elements

def memberTrees : List (String × JsonEvent) → List (String × JsonValue)
  | [] => []
  | (key, member) :: members => (key, valueTree member) :: memberTrees members

end

theorem map_fst_memberTrees : ∀ members : List (String × JsonEvent),
    (memberTrees members).map Prod.fst = members.map Prod.fst
  | [] => rfl
  | (key, member) :: members => by
    rw [memberTrees, List.map_cons, List.map_cons, map_fst_memberTrees members]

/-! ### Members in the order of their keys -/

section Members

variable {V : Type} {members more : List (String × V)}

instance : Std.Total (keyLe : String × V → String × V → Prop) := ⟨fun a b => le_total a.1 b.1⟩

instance : IsTrans (String × V) keyLe := ⟨fun _ _ _ => le_trans⟩

theorem containsKey_eq_false {key : String} : containsKey members key = false ↔ key ∉ members.map Prod.fst := by
  simp only [containsKey, List.any_eq_false, beq_iff_eq, List.mem_map, not_exists, not_and]

theorem insertMember_of_new {key : String} {val : V} (h : key ∉ members.map Prod.fst) :
    insertMember members key val = members.orderedInsert keyLe (key, val) := by
  have ha : members.filter (·.1 != key) = members := by
    refine List.filter_eq_self.mpr fun member hm => bne_iff_ne.mpr fun heq => h ?_
    exact heq ▸ List.mem_map_of_mem hm
  rw [insertMember, ha]

theorem eq_of_perm_of_sorted (hp : members.Perm more) (hnd : (more.map Prod.fst).Nodup)
    (hs : members.Pairwise keyLe) (hs' : more.Pairwise keyLe) : members = more := by
  refine hp.eq_of_pairwise (fun a b ha hb hab hba => ?_) hs hs'
  exact List.inj_on_of_nodup_map hnd (hp.mem_iff.mp ha) hb (le_antisymm hab hba)

theorem foldl_insertMember : ∀ {members more : List (String × V)}, members.Pairwise keyLe →
    ((members ++ more).map Prod.fst).Nodup → more.foldl (fun acc member => insertMember acc member.1 member.2) members =
        (members ++ more).insertionSort keyLe
  | members, [], hs, hnd => by
    rw [List.foldl_nil, List.append_nil, hs.insertionSort_eq]
  | members, (key, val) :: more, hs, hnd => by
    have hn : key ∉ members.map Prod.fst := by
      rw [List.map_append, List.nodup_append] at hnd
      exact fun hm => hnd.2.2 key hm key List.mem_cons_self rfl
    have hp : (members.orderedInsert keyLe (key, val) ++ more).Perm (members ++ (key, val) :: more) :=
      ((List.perm_orderedInsert keyLe (key, val) members).append_right more).trans List.perm_middle.symm
    have hnd' := (hp.map Prod.fst).nodup_iff.mpr hnd
    rw [List.foldl_cons, insertMember_of_new hn, foldl_insertMember (hs.orderedInsert _ _) hnd']
    refine eq_of_perm_of_sorted ?_ ?_ (List.pairwise_insertionSort _ _) (List.pairwise_insertionSort _ _)
    · exact (List.perm_insertionSort _ _).trans (hp.trans (List.perm_insertionSort _ _).symm)
    · exact ((List.perm_insertionSort keyLe _).map Prod.fst).nodup_iff.mpr hnd

end Members

/-! ### The visitor -/

/-- What the visitor wants of every node. -/
def JsonEvent.Fine (node : JsonEvent) : Prop := node.keys.Nodup ∧ node.finite = true ∧ node.delivered = true

theorem visit_leaf (event : JsonEvent) (hv : visit event = .ok (valueTree event)) (hn : event.nodes = [event])
    (hf : event.Fine) (val : JsonValue) :
    visit event = .ok val ↔ (∀ node ∈ event.nodes, node.Fine) ∧ val = valueTree event := by
  rw [hv, hn, List.forall_mem_singleton, Except.ok.injEq]
  exact ⟨fun h => ⟨hf, h.symm⟩, fun h => h.2.symm⟩

theorem visit_refused (event : JsonEvent) {error : JsonError} (hv : visit event = .error error)
    (hn : event ∈ event.nodes) (hf : ¬ event.Fine) (val : JsonValue) :
    visit event = .ok val ↔ (∀ node ∈ event.nodes, node.Fine) ∧ val = valueTree event := by
  rw [hv]
  exact ⟨fun h => (by cases h), fun h => absurd (h.1 event hn) hf⟩

mutual

open JsonEvent

/-- **What the visitor accepts, and what it returns.** -/
theorem visit_eq_ok : ∀ (ev : JsonEvent) (val : JsonValue),
    visit ev = .ok val ↔ (∀ node ∈ ev.nodes, node.Fine) ∧ val = valueTree ev
  | .unit, val => visit_leaf .unit rfl rfl ⟨List.nodup_nil, rfl, rfl⟩ val
  | .none, val => visit_leaf .none rfl rfl ⟨List.nodup_nil, rfl, rfl⟩ val
  | .bool b, val => visit_leaf (.bool b) rfl rfl ⟨List.nodup_nil, rfl, rfl⟩ val
  | .i64 b, val => visit_leaf (.i64 b) rfl rfl ⟨List.nodup_nil, rfl, rfl⟩ val
  | .u64 b, val => visit_leaf (.u64 b) rfl rfl ⟨List.nodup_nil, rfl, rfl⟩ val
  | .str b, val => visit_leaf (.str b) rfl rfl ⟨List.nodup_nil, rfl, rfl⟩ val
  | .error, val => visit_refused .error rfl List.mem_cons_self (fun h => Bool.false_ne_true h.2.2) val
  | .f64 bits, val => by
    by_cases hfin : isFinite bits = true
    · exact visit_leaf (.f64 bits) (by rw [visit, if_pos hfin, valueTree]) rfl ⟨List.nodup_nil, hfin, rfl⟩ val
    · exact visit_refused (.f64 bits) (by rw [visit, if_neg hfin]) List.mem_cons_self (fun h => hfin h.2.1) val
  | .seq elements failed, val => by
    have hfn : (seq elements failed).Fine ↔ failed = false := by
      simp [JsonEvent.Fine, keys, finite, delivered]
    simp only [visit, map_eq_ok, visitSeq_eq_ok elements, nodes, List.forall_mem_cons, hfn]
    constructor
    · rintro ⟨values, ⟨he, hf, rfl⟩, rfl⟩
      exact ⟨⟨hf, he⟩, rfl⟩
    · rintro ⟨⟨hf, he⟩, rfl⟩
      exact ⟨_, ⟨he, hf, rfl⟩, rfl⟩
  | .map members failed, val => by
    have hfn : (map members failed).Fine ↔ (members.map Prod.fst).Nodup ∧ failed = false := by
      simp [JsonEvent.Fine, keys, finite, delivered]
    have hsort (hnd : (members.map Prod.fst).Nodup) := foldl_insertMember List.Pairwise.nil
      (by rwa [List.nil_append, map_fst_memberTrees members])
    simp only [visit, map_eq_ok, visitMap_eq_ok members failed [] _ List.nodup_nil, nodes, List.forall_mem_cons,
      hfn, valueTree]
    constructor
    · rintro ⟨values, ⟨hm, hf, hnd, rfl⟩, rfl⟩
      exact ⟨⟨⟨hnd, hf⟩, hm⟩, by rw [hsort hnd, List.nil_append]⟩
    · rintro ⟨⟨⟨hnd, hf⟩, hm⟩, rfl⟩
      exact ⟨_, ⟨hm, hf, hnd, rfl⟩, by rw [hsort hnd, List.nil_append]⟩

theorem visitSeq_eq_ok : ∀ (elements : List JsonEvent) (failed : Bool) (vals res : List JsonValue),
    visitSeq elements failed vals = .ok res ↔
      (∀ node ∈ nodesOfElements elements, node.Fine) ∧ failed = false ∧ res = vals ++ elementTrees elements
  | [], failed, vals, res => by
    cases failed <;> simp [visitSeq, nodesOfElements, elementTrees, eq_comm]
  | element :: elements, failed, vals, res => by
    simp only [visitSeq, bind_eq_ok, visit_eq_ok element, visitSeq_eq_ok elements, nodesOfElements, elementTrees,
      List.forall_mem_append]
    constructor
    · rintro ⟨value, ⟨helement, rfl⟩, he, hf, hr⟩
      exact ⟨⟨helement, he⟩, hf, by rw [hr, List.append_assoc, List.singleton_append]⟩
    · rintro ⟨⟨helement, he⟩, hf, hr⟩
      exact ⟨_, ⟨helement, rfl⟩, he, hf, by rw [hr, List.append_assoc, List.singleton_append]⟩

theorem visitMap_eq_ok : ∀ (members : List (String × JsonEvent)) (failed : Bool)
    (vals res : List (String × JsonValue)), (vals.map Prod.fst).Nodup →
      (visitMap members failed vals = .ok res ↔ (∀ node ∈ nodesOfMembers members, node.Fine) ∧ failed = false ∧
          (vals.map Prod.fst ++ members.map Prod.fst).Nodup ∧
          res = (memberTrees members).foldl (fun acc member => insertMember acc member.1 member.2) vals)
  | [], failed, vals, res, hnd => by
    cases failed <;> simp [visitMap, nodesOfMembers, memberTrees, hnd, eq_comm]
  | (key, member) :: members, failed, vals, res, hnd => by
    rw [visitMap, nodesOfMembers, List.forall_mem_append]
    cases hk : containsKey vals key with
    | true =>
      have hm : key ∈ vals.map Prod.fst := by
        by_contra hnot
        rw [containsKey_eq_false.mpr hnot] at hk
        cases hk
      refine ⟨fun h => (by cases h), fun h => ?_⟩
      exact absurd rfl ((List.nodup_append.mp h.2.2.1).2.2 key hm key List.mem_cons_self)
    | false =>
      have hn := containsKey_eq_false.mp hk
      have hpm (val : JsonValue) : ((insertMember vals key val).map Prod.fst).Perm (key :: vals.map Prod.fst) := by
        rw [insertMember_of_new hn]
        exact (List.perm_orderedInsert keyLe (key, val) vals).map Prod.fst
      have hnd' (val : JsonValue) : ((insertMember vals key val).map Prod.fst).Nodup :=
        (hpm val).nodup_iff.mpr (List.nodup_cons.mpr ⟨hn, hnd⟩)
      have hks (val : JsonValue) : ((insertMember vals key val).map Prod.fst ++ members.map Prod.fst).Nodup ↔
          (vals.map Prod.fst ++ key :: members.map Prod.fst).Nodup :=
        (((hpm val).append_right _).trans List.perm_middle.symm).nodup_iff
      rw [if_neg (by decide)]
      simp only [bind_eq_ok, visit_eq_ok member]
      constructor
      · rintro ⟨val, ⟨hmember, rfl⟩, hrs⟩
        rw [visitMap_eq_ok members failed _ _ (hnd' _)] at hrs
        obtain ⟨hmembers, hf, ha, rfl⟩ := hrs
        exact ⟨⟨hmember, hmembers⟩, hf, (hks _).mp ha, rfl⟩
      · rintro ⟨⟨hmember, hmembers⟩, hf, ha, rfl⟩
        refine ⟨_, ⟨hmember, rfl⟩, ?_⟩
        rw [visitMap_eq_ok members failed _ _ (hnd' _)]
        exact ⟨hmembers, hf, (hks _).mpr ha, rfl⟩

end

theorem canonicalJsonBytesFromSlice_eq_ok {canonicalJsonBytes : JsonValue → Except CanonicalError Bytes}
    {document : JsonDocument} {bytes : Bytes} : canonicalJsonBytesFromSlice canonicalJsonBytes document = .ok bytes ↔
      (∀ node ∈ document.root.nodes, node.Fine) ∧ document.trailing = false ∧
        canonicalJsonBytes (valueTree document.root) = .ok bytes := by
  simp only [canonicalJsonBytesFromSlice, bind_eq_ok, mapError_eq_ok, visit_eq_ok, ensure_eq_ok, Bool.not_eq_true']
  constructor
  · rintro ⟨value, ⟨hf, rfl⟩, -, ht, hby⟩
    exact ⟨hf, ht, hby⟩
  · rintro ⟨hf, ht, hby⟩
    exact ⟨_, ⟨hf, rfl⟩, (), ht, hby⟩

/-- **Duplicate keys are refused at every depth.** A document that is accepted has no object with a
key twice. One without such an object, with finite numbers, without an error of the tokenizer and with
nothing after it is visited to exactly its value, and gets the bytes of that value. Two accepted
documents with the same value have the same bytes. -/
theorem unique_json (canonicalJsonBytes : JsonValue → Except CanonicalError Bytes) :
    (∀ document bytes, canonicalJsonBytesFromSlice canonicalJsonBytes document = .ok bytes →
      ∀ node ∈ document.root.nodes, node.keys.Nodup) ∧
    (∀ document, (∀ node ∈ document.root.nodes, node.keys.Nodup) → (∀ node ∈ document.root.nodes, node.finite = true) →
      (∀ node ∈ document.root.nodes, node.delivered = true) → document.trailing = false →
        visit document.root = .ok (valueTree document.root) ∧
          canonicalJsonBytesFromSlice canonicalJsonBytes document = canonicalJsonBytes (valueTree document.root)) ∧
    ∀ document document' bytes bytes', canonicalJsonBytesFromSlice canonicalJsonBytes document = .ok bytes →
      canonicalJsonBytesFromSlice canonicalJsonBytes document' = .ok bytes' →
        valueTree document.root = valueTree document'.root → bytes = bytes' := by
  refine ⟨fun document bytes h => ?_, fun document hks hf hd ht => ?_,
    fun document document' bytes bytes' h h' htree => ?_⟩
  · exact fun node hnode => ((canonicalJsonBytesFromSlice_eq_ok.mp h).1 node hnode).1
  · have hv : visit document.root = .ok (valueTree document.root) :=
      (visit_eq_ok _ _).mpr ⟨fun node hnode => ⟨hks node hnode, hf node hnode, hd node hnode⟩, rfl⟩
    refine ⟨hv, ?_⟩
    simp only [canonicalJsonBytesFromSlice, hv, ht, Except.mapError, ensure, bind, Except.bind, Bool.not_false,
      if_true]
  · have hby := (canonicalJsonBytesFromSlice_eq_ok.mp h).2.2
    have hby' := (canonicalJsonBytesFromSlice_eq_ok.mp h').2.2
    rw [htree, hby'] at hby
    exact (Except.ok.inj hby).symm

/-- An object in an array in an object. -/
def UniqueJsonSample.document : JsonDocument :=
  ⟨.map [("b", .seq [.u64 1, .map [("a", .unit)] false] false), ("a", .bool true)] false, false⟩

theorem unique_json_nested :
    (∀ node ∈ UniqueJsonSample.document.root.nodes, node.keys.Nodup) ∧
      visit UniqueJsonSample.document.root = .ok (.object
        [("a", .bool true), ("b", .array [.number (.posInt 1), .object [("a", .null)]])]) :=
  ⟨by decide +kernel, ((unique_json fun _ => .ok []).2.1 UniqueJsonSample.document (by decide +kernel)
    (by decide +kernel) (by decide +kernel) rfl).1⟩

end Rctl
