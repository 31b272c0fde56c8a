/-
  Flowgraph/Proofs/Definition/ReadBack.lean
  =========================================
  **Definitions are read back** — a definition that is written as a JSON value is read from it
  again, with all that is set and all that is absent (`Definition.decoder_reads`), and so are its
  nodes, their retry settings and its edges.  Only a backoff factor that is not finite is lost,
  since JSON has no such numbers.  None is ever read (`Definition.decoder_yields`), so what is read
  can be written and read again.

  An object keeps its fields in the order of their names, which is not the order in which they
  are declared.  So each type lists its fields in the order of the names first
  (`orderedEntries`): those are the fields of the object, and going through them fills the draft.
-/
import Flowgraph.Definition
import Flowgraph.Proofs.Fields
import Flowgraph.Proofs.Json.ReadBack
import Flowgraph.Proofs.Json.Yields

namespace Flowgraph

open Json (Decoder object)

/-! ### Retry settings -/

namespace RetryOverride

/-- The fields that are set, in the order of their names. -/
def orderedEntries (o : RetryOverride) : List (String × Json) :=
  (o.backoffFactor.map fun x => ("backoff_factor", Json.ofBinary64 x)).toList ++
  (o.initialIntervalMs.map fun n => ("initial_interval_ms", Json.int n.toNat)).toList ++
  (o.jitter.map fun b => ("jitter", Json.bool b)).toList ++
  (o.maxAttempts.map fun n => ("max_attempts", Json.int n.toNat)).toList ++
  (o.maxIntervalMs.map fun n => ("max_interval_ms", Json.int n.toNat)).toList

theorem object_entries (o : RetryOverride) : object o.entries = .obj o.orderedEntries := by
  have hordered : Fields.Ordered o.orderedEntries := by
    have hkeys : (Fields.keys o.orderedEntries).Sublist
        ["backoff_factor", "initial_interval_ms", "jitter", "max_attempts", "max_interval_ms"] := by
      simp only [orderedEntries, Fields.keys_append]
      exact (((Fields.keys_toList_sublist.append Fields.keys_toList_sublist).append
        Fields.keys_toList_sublist).append Fields.keys_toList_sublist).append
        Fields.keys_toList_sublist
    exact List.Pairwise.sublist hkeys (by decide)
  have hperm : o.orderedEntries.Perm o.entries := by
    refine Fields.perm_of_count_eq fun _ f => ?_
    simp only [orderedEntries, entries, List.count_append]
    omega
  rw [object, Fields.ofList_eq_of_perm hordered hperm]

/-- The draft that the settings fill. -/
def toDraft (o : RetryOverride) : Draft where
  maxAttempts := o.maxAttempts.map some
  initialIntervalMs := o.initialIntervalMs.map some
  backoffFactor := o.backoffFactor.map Binary64.toFinite?
  maxIntervalMs := o.maxIntervalMs.map some
  jitter := o.jitter.map some

theorem fills (o : RetryOverride) : record.Fills {} o.orderedEntries o.toDraft := by
  obtain ⟨attempts, initial, factor, longest, jitter⟩ := o
  rw [← List.append_nil (orderedEntries _)]
  simp only [orderedEntries, List.append_assoc]
  refine .setting (fun x => toDraft ⟨none, none, x, none, none⟩) rfl rfl
    Decoder.optional_float_reads (fun _ => rfl) ?_
  refine .setting (fun x => toDraft ⟨none, x, factor, none, none⟩) rfl rfl
    (Decoder.uint64_readsBack.optional fun _ => rfl) (fun _ => rfl) ?_
  refine .setting (fun x => toDraft ⟨none, initial, factor, none, x⟩) rfl rfl
    (Decoder.bool_readsBack.optional fun _ => rfl) (fun _ => rfl) ?_
  refine .setting (fun x => toDraft ⟨x, initial, factor, none, jitter⟩) rfl rfl
    (Decoder.uint32_readsBack.optional fun _ => rfl) (fun _ => rfl) ?_
  refine .setting (fun x => toDraft ⟨attempts, initial, factor, x, jitter⟩) rfl rfl
    (Decoder.uint64_readsBack.optional fun _ => rfl) (fun _ => rfl) ?_
  exact .nil

/-- The settings as they are written, without a factor that is not finite. -/
def written (o : RetryOverride) : RetryOverride :=
  { o with backoffFactor := o.backoffFactor.filter (·.isFinite) }

/-- A factor that is set is finite. -/
def IsFinite (o : RetryOverride) : Prop := ∀ x ∈ o.backoffFactor, x.isFinite = true

theorem written_eq {o : RetryOverride} (h : o.IsFinite) : o.written = o := by
  have hfactor : o.backoffFactor.filter (·.isFinite) = o.backoffFactor := by
    cases hset : o.backoffFactor with
    | none => rfl
    | some x => exact Option.filter_some_pos (h x hset)
  rw [written, hfactor]

theorem join_map_toFinite? (x : Option Binary64) :
    (x.map Binary64.toFinite?).join.map .finite = x.filter (·.isFinite) := by
  cases x with
  | none => rfl
  | some x => cases x <;> rfl

theorem decoder_reads : decoder.Reads (fun o => object o.entries) written := by
  intro o
  change record.decode (.plain (object o.entries)) = .ok o.written
  rw [object_entries]
  refine Json.Record.decode_of_fills o.fills ?_
  simp only [record, toDraft, Json.join_map_some, join_map_toFinite?, written]

theorem decoder_yields : decoder.Yields IsFinite := by
  refine Json.Record.yields (fun _ => True) trivial ?_ ?_
  · intro slot _ s draft draft' _ _
    trivial
  · intro draft o _ hfinish x hx
    cases hfinish
    obtain ⟨y, -, rfl⟩ := Option.map_eq_some_iff.1 hx
    rfl

end RetryOverride

/-! ### Edges -/

namespace Edge

/-- The fields, in the order of their names. -/
def orderedEntries (e : Edge) : List (String × Json) :=
  (e.condition.map fun c => ("condition", Json.str c)).toList ++
  [("source", .str e.source), ("target", .str e.target)]

theorem object_entries (e : Edge) : object e.entries = .obj e.orderedEntries := by
  have hordered : Fields.Ordered e.orderedEntries := by
    have hkeys : (Fields.keys e.orderedEntries).Sublist ["condition", "source", "target"] := by
      simp only [orderedEntries, Fields.keys_append]
      exact Fields.keys_toList_sublist.append (.refl _)
    exact List.Pairwise.sublist hkeys (by decide)
  have hperm : e.orderedEntries.Perm e.entries := List.perm_append_comm
  rw [object, Fields.ofList_eq_of_perm hordered hperm]

theorem decoder_readsBack : decoder.ReadsBack fun e => object e.entries := by
  intro e
  change record.decode (.plain (object e.entries)) = .ok e
  rw [object_entries]
  have hfills : record.Fills {} e.orderedEntries
      { source := some e.source, target := some e.target, condition := e.condition.map some } := by
    refine .setting (fun x => ({ condition := x.map some } : Draft)) rfl rfl
      (Decoder.string_readsBack.optional fun _ => rfl) (fun _ => rfl) ?_
    refine .field rfl rfl (Decoder.string_readsBack e.source) ?_
    refine .field rfl rfl (Decoder.string_readsBack e.target) ?_
    exact .nil
  refine Json.Record.decode_of_fills hfills ?_
  simp only [record, Json.required, Json.join_map_some]
  rfl

end Edge

/-! ### Nodes -/

namespace NodeSpec

/-- The parameters, if there are any: `null` stands for none. -/
def params? (n : NodeSpec) : Option Json := if n.params.isNull then none else some n.params

theorem getD_params? (n : NodeSpec) : n.params?.getD .null = n.params := by
  unfold params?
  cases n.params <;> rfl

/-- The fields are declared in the order of their names. -/
theorem entries_object (n : NodeSpec) :
    n.entries object = ("id", .str n.id) :: ("kind", .str n.kind) ::
      ((n.label.map fun label => ("label", Json.str label)).toList ++
      ((n.params?.map fun params => ("params", params)).toList ++
      ((n.retry.map fun retry => ("retry", object retry.entries)).toList ++ []))) := by
  have hparams : (if n.params.isNull then [] else [("params", n.params)]) =
      (n.params?.map fun params => ("params", params)).toList := by
    unfold params?
    split <;> rfl
  simp only [entries, hparams, List.append_assoc, List.append_nil]
  rfl

theorem object_entries (n : NodeSpec) : object (n.entries object) = .obj (n.entries object) := by
  have hordered : Fields.Ordered (n.entries object) := by
    have hkeys : (Fields.keys (n.entries object)).Sublist
        ["id", "kind", "label", "params", "retry"] := by
      simp only [entries_object, Fields.keys_cons, Fields.keys_append]
      refine .cons_cons _ (.cons_cons _ ?_)
      exact Fields.keys_toList_sublist.append (Fields.keys_toList_sublist.append
        (Fields.keys_toList_sublist.append (.refl [])))
    exact List.Pairwise.sublist hkeys (by decide)
  rw [object, Fields.ofList_eq_of_perm hordered (.refl _)]

def toDraft (n : NodeSpec) : Draft where
  id := some n.id
  kind := some n.kind
  label := n.label.map some
  params := n.params?
  retry := n.retry.map some

/-- The node as it is written. -/
def written (n : NodeSpec) : NodeSpec := { n with retry := n.retry.map (·.written) }

theorem fills (n : NodeSpec) : record.Fills {} (n.entries object) n.written.toDraft := by
  rw [entries_object]
  refine .field rfl rfl (Decoder.string_readsBack n.id) ?_
  refine .field rfl rfl (Decoder.string_readsBack n.kind) ?_
  refine .setting (fun x => toDraft ⟨n.id, n.kind, x, .null, none⟩) rfl rfl
    (Decoder.string_readsBack.optional fun _ => rfl) (fun _ => rfl) ?_
  refine .setting
    (fun x => ({ toDraft ⟨n.id, n.kind, n.label, .null, none⟩ with params := x } : Draft)) rfl rfl
    Decoder.any_readsBack (fun _ => rfl) ?_
  refine .setting (fun x => toDraft { n with retry := x.map (·.written) }) rfl rfl
    (RetryOverride.decoder_reads.optional fun _ => rfl) (fun _ => rfl) ?_
  exact .nil

theorem decoder_reads : decoder.Reads (fun n => object (n.entries object)) written := by
  intro n
  change record.decode (.plain (object (n.entries object))) = .ok n.written
  rw [object_entries]
  refine Json.Record.decode_of_fills n.fills ?_
  simp only [record, toDraft, Json.required, Json.join_map_some, getD_params?]
  rfl

def IsFinite (n : NodeSpec) : Prop := ∀ o ∈ n.retry, o.IsFinite

theorem written_eq {n : NodeSpec} (h : n.IsFinite) : n.written = n := by
  have hretry : n.retry.map (·.written) = n.retry := by
    cases hset : n.retry with
    | none => rfl
    | some o => exact congrArg some (RetryOverride.written_eq (h o hset))
  rw [written, hretry]

theorem decoder_yields : decoder.Yields IsFinite := by
  refine Json.Record.yields (fun draft => ∀ o ∈ draft.retry.join, o.IsFinite) ?_ ?_ ?_
  · intro o ho
    cases ho
  · simp only [record, List.forall_mem_cons]
    refine ⟨.of_set ?_, .of_set ?_, .of_set ?_, .of_set ?_,
      .of_yields RetryOverride.decoder_yields.optional ?_, ?_⟩
    · exact fun _ _ h => h
    · exact fun _ _ h => h
    · exact fun _ _ h => h
    · exact fun _ _ h => h
    · intro x draft hx _
      exact hx
    · intro slot hslot
      cases hslot
  · intro draft n hdraft hfinish
    obtain ⟨id, -, hrest⟩ := bind_eq_ok_iff.1 hfinish
    obtain ⟨kind, -, hpure⟩ := bind_eq_ok_iff.1 hrest
    cases hpure
    exact hdraft

end NodeSpec

/-! ### Definitions -/

namespace Definition

/-- The fields, in the order of their names. -/
def orderedEntries (d : Definition) : List (String × Json) :=
  [("edges", .arr (d.edges.map fun e => object e.entries)), ("end", .str d.finish),
   ("nodes", .arr (d.nodes.map fun n => object (n.entries object))), ("start", .str d.start)]

theorem object_entries (d : Definition) : object (d.entries object) = .obj d.orderedEntries := by
  have hordered : Fields.Ordered d.orderedEntries := by
    change List.Pairwise (· < ·) ["edges", "end", "nodes", "start"]
    decide
  have hperm : d.orderedEntries.Perm (d.entries object) := by
    refine Fields.perm_of_count_eq fun _ f => ?_
    simp only [orderedEntries, entries, List.count_cons]
    omega
  rw [object, Fields.ofList_eq_of_perm hordered hperm]

/-- The definition as it is written. -/
def written (d : Definition) : Definition := { d with nodes := d.nodes.map (·.written) }

theorem decoder_reads : decoder.Reads toJson written := by
  intro d
  change record.decode (.plain (object (d.entries object))) = .ok d.written
  rw [object_entries]
  have hfills : record.Fills {} d.orderedEntries
      { start := some d.start, finish := some d.finish, nodes := some d.written.nodes,
        edges := some (d.edges.map fun e => e) } := by
    refine .field rfl rfl (Edge.decoder_readsBack.list d.edges) ?_
    refine .field rfl rfl (Decoder.string_readsBack d.finish) ?_
    refine .field rfl rfl (NodeSpec.decoder_reads.list d.nodes) ?_
    refine .field rfl rfl (Decoder.string_readsBack d.start) ?_
    exact .nil
  rw [List.map_id'] at hfills
  exact Json.Record.decode_of_fills hfills rfl

/-- Every backoff factor that a node sets is finite. -/
def IsFinite (d : Definition) : Prop := ∀ n ∈ d.nodes, n.IsFinite

theorem written_eq {d : Definition} (h : d.IsFinite) : d.written = d := by
  have hnodes : d.nodes.map (·.written) = d.nodes := by
    calc d.nodes.map (·.written) = d.nodes.map id :=
        List.map_congr_left fun n hn => NodeSpec.written_eq (h n hn)
      _ = d.nodes := List.map_id _
  rw [written, hnodes]

theorem decoder_yields : decoder.Yields IsFinite := by
  refine Json.Record.yields (fun draft => ∀ nodes ∈ draft.nodes, ∀ n ∈ nodes, n.IsFinite) ?_ ?_ ?_
  · intro nodes hnodes
    cases hnodes
  · simp only [record, List.forall_mem_cons]
    refine ⟨.of_set ?_, .of_set ?_, .of_yields NodeSpec.decoder_yields.list ?_,
      .of_set ?_, ?_⟩
    · exact fun _ _ h => h
    · exact fun _ _ h => h
    · intro x draft hx _ nodes hnodes
      cases hnodes
      exact hx
    · exact fun _ _ h => h
    · intro slot hslot
      cases hslot
  · intro draft d hdraft hfinish
    obtain ⟨start, -, hrest⟩ := bind_eq_ok_iff.1 hfinish
    obtain ⟨finish, -, hrest⟩ := bind_eq_ok_iff.1 hrest
    obtain ⟨nodes, hnodes, hpure⟩ := bind_eq_ok_iff.1 hrest
    cases hpure
    cases hset : draft.nodes with
    | none =>
      rw [hset] at hnodes
      cases hnodes
    | some given =>
      rw [hset] at hnodes
      cases hnodes
      exact hdraft nodes hset

theorem isFinite_of_ofText {text : String} {d : Definition} (h : ofText text = .ok d) :
    d.IsFinite :=
  decoder_yields.of_ofText (mapError_eq_ok_iff.1 h)

/-- A definition with finite factors is the same when it is written and read again, and any other
    loses no more than the factors that are not.  Whatever is read has finite factors, so what was
    read once, from a value or from a text, is read the same after it is written. -/
theorem ofJson_toJson :
    (∀ d, d.IsFinite → decoder.ofJson (toJson d) = .ok d) ∧
    (∀ d, decoder.ofJson (toJson d) = .ok d.written) ∧
    (∀ j d, decoder.ofJson j = .ok d → d.IsFinite) ∧
    (∀ text d, ofText text = .ok d → d.IsFinite) ∧
    (∀ j, (decoder.ofJson j >>= fun d => decoder.ofJson d.toJson) = decoder.ofJson j) ∧
    ∀ text, (ofText text >>= fun d => (decoder.ofJson d.toJson).mapError .unreadable) =
      ofText text := by
  have hwritten : ∀ d, decoder.ofJson (toJson d) = .ok d.written := by
    intro d
    unfold Decoder.ofJson
    rw [decoder_reads d]
    rfl
  have hread : ∀ d, d.IsFinite → decoder.ofJson (toJson d) = .ok d := by
    intro d hd
    rw [hwritten d, written_eq hd]
  have hvalue : ∀ j d, decoder.ofJson j = .ok d → d.IsFinite :=
    fun j d hd => decoder_yields.of_ofJson hd
  have htext : ∀ text d, ofText text = .ok d → d.IsFinite :=
    fun text d hd => isFinite_of_ofText hd
  refine ⟨hread, hwritten, hvalue, htext, ?_, ?_⟩
  · intro j
    cases hj : decoder.ofJson j with
    | error e => rfl
    | ok d => exact hread d (hvalue j d hj)
  · intro text
    cases htext' : ofText text with
    | error e => rfl
    | ok d =>
      have hagain := hread d (htext text d htext')
      exact congrArg (Except.mapError DefinitionError.unreadable) hagain

/-- One node with a factor of its own, and one that sets nothing. -/
def hesitant : Definition where
  start := "ask"
  finish := "end"
  nodes :=
    [{ id := "ask", kind := "passthrough", retry := some { backoffFactor := some 2 } },
     { id := "end", kind := "end", retry := some {} }]
  edges := [⟨"ask", "end", none⟩]

theorem ofJson_toJson_hesitant :
    hesitant.IsFinite ∧ decoder.ofJson hesitant.toJson = .ok hesitant := by
  have hfinite : hesitant.IsFinite := by
    intro n hn o ho x hx
    simp only [hesitant, List.mem_cons, List.not_mem_nil, or_false] at hn
    rcases hn with rfl | rfl
    · cases ho
      rw [← Option.some.inj hx]
      decide +kernel
    · cases ho
      cases hx
  exact ⟨hfinite, ofJson_toJson.1 hesitant hfinite⟩

/-- A factor that is not finite is lost. -/
example : RetryOverride.written { backoffFactor := some .nan, jitter := some true } =
    { jitter := some true } := rfl

end Definition

end Flowgraph
