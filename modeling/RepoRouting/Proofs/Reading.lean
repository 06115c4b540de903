import RepoRouting.Codec.Policy

/-!
# Reading what was written

Writers produce a narrow kind of document: text, boolean and small integer scalars, null,
complete sequences and mappings whose keys are texts, all without tags. This module says how
a reader of any form takes such nodes, so that each structure's round trip is a short chain
of steps:

* scalars, optional values and sequences read back as they were written;
* a mapping with text keys is read by folding the structure's step over its entries in
  order (`Reader.record_ofFields_of_ok`), and a written field list is folded one segment at
  a time (`foldlM_append_of_ok`, `foldlM_optField_of_ok`);
* gathering, as flattened fields are read, leaves such nodes (`Node.Written`) as they are
  (`Reader.gather_of_written`), and the entries gathered one by one are the written fields
  (`foldlM_eq_of_step_snoc`).
-/

namespace RepoRouting.Doc

variable (r : Reader) (p : Path)

/-! ## Scalars, options and sequences -/

@[simp] theorem Reader.string_ofString (expected s : String) :
    r.string expected p (.ofString s) = .ok s := rfl

@[simp] theorem Reader.bool_ofScalar (b : Bool) : r.bool p (.ofScalar (.bool b)) = .ok b := rfl

/-- A port written as its number reads back as the same port. -/
theorem Reader.u16_ofScalar (port : UInt16) :
    r.u16 p (.ofScalar (.int port.toNat)) = .ok port := by
  have hlt : (port.toNat : Int) < 65536 := by have := port.toNat_lt; omega
  show r.portValue p {} (port.toNat : Int) = .ok port
  unfold Reader.portValue
  rw [if_pos (by simp only [Int.natCast_nonneg, decide_true, hlt, Bool.and_self])]
  simp

@[simp] theorem Reader.optional_ofString (read : Path → Node → Except DecodeError α)
    (s : String) : r.optional read p (.ofString s) = (read p (.ofString s)).map some := rfl

theorem Reader.optional_ofFields (read : Path → Node → Except DecodeError α)
    (fs : List (String × Node)) :
    r.optional read p (.ofFields fs) = (read p (.ofFields fs)).map some := rfl

/-- A written structure read as an optional value is present. -/
theorem Reader.optional_ofFields_of_ok {read : Path → Node → Except DecodeError α}
    {fs : List (String × Node)} {a : α} (h : read p (.ofFields fs) = .ok a) :
    r.optional read p (.ofFields fs) = .ok (some a) := by
  rw [Reader.optional_ofFields, h]
  rfl

/-- Items that each read back read back in order. -/
theorem readItems_map {read : Path → Node → Except DecodeError α} {f : β → Node} {g : β → α}
    (h : ∀ q b, read q (f b) = .ok (g b)) (i : Nat) (xs : List β) :
    readItems read p i (xs.map f) = .ok (xs.map g) := by
  induction xs generalizing i with
  | nil => rfl
  | cons x xs ih =>
    simp only [List.map_cons, readItems, h, ih, bind, Except.bind]

/-- A step that succeeds succeeds in place. -/
theorem Reader.within_ok (m : Mark) (a : α) : r.within p m (.ok a) = .ok a := by
  unfold Reader.within
  split <;> rfl

theorem Reader.list_ofList {read : Path → Node → Except DecodeError α} {f : β → Node}
    {g : β → α} (h : ∀ q b, read q (f b) = .ok (g b)) (xs : List β) :
    r.list read p (.ofList (xs.map f)) = .ok (xs.map g) := by
  simp [Reader.list, Node.ofList, readItems_map p h, bind, Except.bind, Reader.within_ok]

/-! ## Mappings with text keys -/

/-- The step of a structure's reader applied to one entry `(key, value)`. -/
def entryStep (p : Path) (step : σ → String → Path → Node → Except DecodeError σ) :
    σ → String × Node → Except DecodeError σ :=
  fun d kv => step d kv.1 (.key p kv.1) kv.2

theorem readEntries_ofString (shape : Shape)
    (step : σ → String → Path → Node → Except DecodeError σ) (d : σ) (fs : List (String × Node)) :
    readEntries r shape p step d (fs.map fun kv => (Node.ofString kv.1, kv.2)) =
      fs.foldlM (entryStep p step) d := by
  induction fs generalizing d with
  | nil => rfl
  | cons kv fs ih =>
    simp only [List.map_cons, readEntries, Reader.key, Node.ofString, childPath, List.foldlM_cons,
      entryStep, bind, Except.bind]
    cases step d kv.1 (.key p kv.1) kv.2 with
    | error e => rfl
    | ok d' => exact ih d'

/-- A mapping written from text keys reads as its fields folded in order, then finished. -/
theorem Reader.record_ofFields_of_ok {shape : Shape} {fs : List (String × Node)} {init : σ}
    {step : σ → String → Path → Node → Except DecodeError σ}
    {finish : σ → Except DecodeError α} {d : σ} {a : α}
    (hfold : fs.foldlM (entryStep p step) init = .ok d) (hfinish : finish d = .ok a) :
    r.record shape p (.ofFields fs) init step finish = .ok a := by
  simp only [Reader.record, Node.ofFields, readEntries_ofString, hfold, Reader.within,
    bind, Except.bind, if_true, hfinish]
  split <;> rfl

/-! ## Gathering written nodes -/

/-- Nodes as writers produce them: typed scalars that fit the typed values, and complete
untagged sequences and mappings with text keys, all at the start of the text. -/
inductive Node.Written : Node → Prop
  | str (s : String) : Node.Written (.ofString s)
  | null : Node.Written (.ofScalar .null)
  | bool (b : Bool) : Node.Written (.ofScalar (.bool b))
  | int (i : Int) (h : i64Min ≤ i ∧ i ≤ u64Max) : Node.Written (.ofScalar (.int i))
  | list (items : List Node) (h : ∀ n ∈ items, Node.Written n) : Node.Written (.ofList items)
  | fields (fs : List (String × Node)) (h : ∀ kv ∈ fs, Node.Written kv.2) :
      Node.Written (.ofFields fs)

/-- A port is written as an integer that fits the typed values. -/
theorem Node.written_port (port : UInt16) : (Node.ofScalar (.int port.toNat)).Written := by
  refine .int _ ⟨?_, ?_⟩
  · simp only [i64Min]
    omega
  · have hlt := port.toNat_lt
    simp only [u64Max]
    omega

@[simp] theorem Reader.gather_ofString (s : String) :
    r.gather p (.ofString s) = .ok (.ofString s) := rfl

theorem Reader.gatherItems_of_written {items : List Node}
    (h : ∀ n ∈ items, ∀ q, r.gather q n = .ok n) (i : Nat) :
    Reader.gather.gatherItems r p i items = .ok items := by
  induction items generalizing i with
  | nil => rfl
  | cons n items ih =>
    simp only [Reader.gather.gatherItems, h n List.mem_cons_self,
      ih fun m hm => h m (List.mem_cons_of_mem n hm), bind, Except.bind]

theorem Reader.gatherEntries_of_written {fs : List (String × Node)}
    (h : ∀ kv ∈ fs, ∀ q, r.gather q kv.2 = .ok kv.2) :
    Reader.gather.gatherEntries r p (fs.map fun kv => (Node.ofString kv.1, kv.2)) =
      .ok (fs.map fun kv => (Node.ofString kv.1, kv.2)) := by
  induction fs with
  | nil => rfl
  | cons kv fs ih =>
    simp only [List.map_cons, Reader.gather.gatherEntries, h kv List.mem_cons_self,
      ih fun m hm => h m (List.mem_cons_of_mem kv hm), Reader.gather_ofString, bind,
      Except.bind]

/-- Gathering leaves a written node as it is. -/
theorem Reader.gather_of_written {n : Node} (h : n.Written) (p : Path) :
    r.gather p n = .ok n := by
  -- on the written form, by its constructors; a container's items are the hypotheses
  induction h generalizing p with
  | str s => rfl
  | null => rfl
  | bool b => rfl
  | int i hi =>
    have hfound : (Scalar.int i).found = .int i := if_pos (by simpa using hi)
    show Reader.gather.typedLeaf r p {} (.int i) = _
    simp only [Reader.gather.typedLeaf, hfound]
    rfl
  | list items _ ih =>
    simp [Node.ofList, Reader.gather, isVariantTag, Reader.gatherItems_of_written r p ih, bind,
      Except.bind]
  | fields fs _ ih =>
    simp [Node.ofFields, Reader.gather, isVariantTag, Reader.gatherEntries_of_written r p ih,
      bind, Except.bind]

/-! ## Folding a written field list -/

section Fold

variable {g : σ → β → Except ε σ}

theorem foldlM_append_of_ok {l₁ l₂ : List β} {d d₁ d₂ : σ} (h₁ : l₁.foldlM g d = .ok d₁)
    (h₂ : l₂.foldlM g d₁ = .ok d₂) : (l₁ ++ l₂).foldlM g d = .ok d₂ := by
  rw [List.foldlM_append, h₁]
  exact h₂

/-- A field that is always written folds into the draft slot it sets, and the fields after
it fold from there. -/
theorem foldlM_cons_of_ok {x : β} {l : List β} {d d' : σ} (upd : σ → α → σ) (a : α)
    (h : g d x = .ok (upd d a)) (hrest : l.foldlM g (upd d a) = .ok d') :
    (x :: l).foldlM g d = .ok d' := by
  rw [List.foldlM_cons, h]
  exact hrest

/-- The same for the last field. -/
theorem foldlM_field_of_ok {x : β} {d : σ} (upd : σ → α → σ) (a : α)
    (h : g d x = .ok (upd d a)) : [x].foldlM g d = .ok (upd d a) :=
  foldlM_cons_of_ok upd a h rfl

/-- A fold whose every step records its item: the state after the fold records them all.
`slot items` is the state that has recorded `items`. -/
theorem foldlM_eq_of_step_snoc (slot : List β → σ) {l : List β}
    (h : ∀ pre, ∀ x ∈ l, g (slot pre) x = .ok (slot (pre ++ [x]))) (pre : List β) :
    l.foldlM g (slot pre) = .ok (slot (pre ++ l)) := by
  induction l generalizing pre with
  | nil =>
    rw [List.append_nil]
    rfl
  | cons x l ih =>
    rw [List.foldlM_cons, h pre x List.mem_cons_self]
    have hrest := ih (fun pre' y hy => h pre' y (List.mem_cons_of_mem x hy)) (pre ++ [x])
    rw [List.append_assoc, List.singleton_append] at hrest
    exact hrest

end Fold

end RepoRouting.Doc

namespace RepoRouting.Codec

open Doc

@[simp] theorem textNode_eq (s : String) : textNode s = .ofString s := rfl

@[simp] theorem boolNode_eq (b : Bool) : boolNode b = .ofScalar (.bool b) := rfl

/-- An optional slot filled from an optional value and read back with no default. -/
@[simp] theorem getD_map_some (o : Option α) : (o.map some).getD none = o := by
  cases o <;> rfl

/-- The same, the value changed on the way. -/
@[simp] theorem getD_map_some_comp (o : Option α) (f : α → β) :
    (o.map fun a => some (f a)).getD none = o.map f := by
  cases o <;> rfl

/-- An optional field folds into the draft slot it sets: nothing when absent, the value read
back when present. -/
theorem foldlM_optField_of_ok {g : σ → String × Node → Except ε σ} {d : σ} {key : String}
    {v : Option α} {f : α → Node} (upd : σ → Option β → σ) (h : α → β)
    (hnone : upd d none = d) (hsome : ∀ a, g d (key, f a) = .ok (upd d (some (h a)))) :
    (optField key v f).foldlM g d = .ok (upd d (v.map h)) := by
  cases v with
  | none =>
    simp only [optField, Option.map_none, hnone]
    rfl
  | some a => simp [optField, hsome]

theorem mem_optField {kv : String × Node} {key : String} {v : Option α} {f : α → Node} :
    kv ∈ optField key v f ↔ ∃ a, v = some a ∧ kv = (key, f a) := by
  cases v with
  | none => simp [optField]
  | some a =>
    simp only [optField, List.mem_singleton, Option.some.injEq]
    exact ⟨fun h => ⟨a, rfl, h⟩, fun ⟨b, hab, h⟩ => hab ▸ h⟩

/-- A field written unless it has its default is an optional field. -/
theorem ite_nil_eq_optField (b : Bool) (key : String) (a : α) (f : α → Node) :
    (if b then [] else [(key, f a)]) = optField key (if b then none else some a) f := by
  cases b <;> rfl

end RepoRouting.Codec
