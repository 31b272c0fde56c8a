/-
  Flowgraph/Proofs/Builtin/FilledTemplate.lean
  ============================================
  **What a template node records** — the pieces of its template with the input text in place of
  each mark between them, once and under its own id (`records_of_template`).

  The input is put in as it is.  It may hold the mark, or make one with the piece beside it: it is
  not searched again.
-/
import Flowgraph.Builtin
import Flowgraph.Proofs.Except
import Flowgraph.Proofs.Recording
import Flowgraph.Proofs.Text.Replacement

namespace Flowgraph.Builtin

/-- A template of pieces without the mark becomes the pieces with the input between them. -/
theorem fillTemplate_intercalate {pieces : List String}
    (hpieces : ∀ piece ∈ pieces, ¬ Text.Occurs inputMark piece) (s : State) :
    fillTemplate (inputMark.intercalate pieces) s = s.inputText.intercalate pieces := by
  have hmark : inputMark.toList = '\x7b' :: "input\x7d".toList := by decide
  have htail : '\x7b' ∉ "input\x7d".toList := by decide
  exact Text.replaceAll_intercalate hmark htail s.inputText hpieces

/-- Every text can be given as a template, and every node with such a template records its pieces
    with the input between them, whatever the state. -/
theorem records_of_template {pieces : List String}
    (hpieces : ∀ piece ∈ pieces, ¬ Text.Occurs inputMark piece) :
    let text := inputMark.intercalate pieces
    (∀ n : NodeSpec, n.params = .object [("template", .str text)] →
      n.readParams templateRecord.decode = .ok text) ∧
    ∀ n : NodeSpec, n.readParams templateRecord.decode = .ok text →
      ∃ f, template n = .ok (steady f) ∧
        ∀ s : State, s.Records [(n.id, .str (s.inputText.intercalate pieces))] (f s) := by
  intro text
  constructor
  · intro n hparams
    rw [NodeSpec.readParams, hparams]
    rfl
  · intro n hread
    refine ⟨fun s => s.recordOutput n.id (.str (fillTemplate text s)), ?_, fun s => ?_⟩
    · rw [template, hread]
      rfl
    · rw [← fillTemplate_intercalate hpieces s]
      exact State.Records.refl.recordOutput (n.id, .str (fillTemplate text s))

/-- A reply that quotes a message twice, the second time between parts of the mark. -/
def quotation : NodeSpec where
  id := "quote"
  kind := "template"
  params := .object [("template", .str "\x7binput\x7d \x7binp\x7binput\x7d\x7d")]

/-- The message completes a mark with the piece before it, and another with the one behind it. -/
theorem records_of_template_quotation :
    ∃ f, template quotation = .ok (steady f) ∧
      (State.ofInput (.str "ut\x7d\x7binput")).Records
        [("quote", .str "ut\x7d\x7binput \x7binput\x7d\x7binput\x7d")]
        (f (.ofInput (.str "ut\x7d\x7binput"))) := by
  have hpieces : ∀ piece ∈ ["", " \x7binp", "\x7d"], ¬ Text.Occurs inputMark piece := by
    intro piece hmem
    rw [← Text.contains_iff]
    revert piece
    decide +kernel
  obtain ⟨hread, hall⟩ := records_of_template hpieces
  obtain ⟨f, hmake, hrecords⟩ := hall quotation (hread quotation rfl)
  exact ⟨f, hmake, hrecords (.ofInput (.str "ut\x7d\x7binput"))⟩

end Flowgraph.Builtin
