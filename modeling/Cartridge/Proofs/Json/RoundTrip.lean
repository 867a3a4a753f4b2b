import Cartridge.Json.Reader
import Cartridge.Proofs.Json.Scanning

/-!
Documents read back. The tokens of a value, read where a value may stand, hand
that very value to whatever is open around it, and so a document that was
written is read as what it was written from: `parse?_pretty` and `parse?_render`.
-/

namespace Cartridge.Json

namespace Reading

/-- Read where a value may stand, the tokens hand the value to the innermost
frame. -/
def Yields (tokens : List Token) (v : Value) : Prop :=
  ∀ frames, tokens.foldlM step (.inside .value frames) = close v frames

/-- One token after another. -/
theorem foldlM_cons {r after : Reading} {token : Token} (h : step r token = some after)
    (tokens : List Token) : (token :: tokens).foldlM step r = tokens.foldlM step after := by
  rw [List.foldlM_cons, h]
  rfl

theorem foldlM_append {r after : Reading} {s : List Token} (h : s.foldlM step r = some after)
    (t : List Token) : (s ++ t).foldlM step r = t.foldlM step after := by
  rw [List.foldlM_append, h]
  rfl

theorem foldlM_single (r : Reading) (token : Token) : [token].foldlM step r = step r token := by
  rw [List.foldlM_cons]
  cases step r token <;> rfl

theorem yields_single {token : Token} {v : Value}
    (h : ∀ frames, step (.inside .value frames) token = close v frames) :
    Yields [token] v := by
  intro frames
  rw [foldlM_single, h]

/-! ### Arrays -/

/-- What starts an item may follow the start of its array. -/
theorem step_itemOrEnd {frames : List Frame} {token : Token} {r : Reading}
    (h : step (.inside .value (.array [] :: frames)) token = some r) :
    step (.inside .itemOrEnd (.array [] :: frames)) token = some r := by
  cases token with
  | closeArray => cases h
  | _ => exact h

theorem foldlM_items {v : Value} {others : List Value}
    (h : ∀ w ∈ v :: others, Yields w.tokens w) (held : List Value) (frames : List Frame) :
    (Value.itemTokens (v :: others)).foldlM step (.inside .value (.array held :: frames)) =
      some (.inside .more (.array ((v :: others).reverse ++ held) :: frames)) := by
  -- On the items that follow, each behind a comma; what is held grows with them.
  induction others generalizing v held with
  | nil => exact h v List.mem_cons_self _
  | cons w others ih =>
      have hv : v.tokens.foldlM step (.inside .value (.array held :: frames)) =
          some (.inside .more (.array (v :: held) :: frames)) := h v List.mem_cons_self _
      have hcomma : step (.inside .more (.array (v :: held) :: frames)) .comma =
          some (.inside .value (.array (v :: held) :: frames)) := rfl
      rw [Value.itemTokens, foldlM_append hv, foldlM_cons hcomma,
        ih fun u hu => h u (List.mem_cons_of_mem v hu)]
      · simp
      · exact List.cons_ne_nil w others

/-- The items of a fresh array. -/
theorem foldlM_itemOrEnd {tokens : List Token} {frames after : List Frame}
    (h : tokens.foldlM step (.inside .value (.array [] :: frames)) = some (.inside .more after)) :
    tokens.foldlM step (.inside .itemOrEnd (.array [] :: frames)) =
      some (.inside .more after) := by
  cases tokens with
  | nil => cases h
  | cons token tokens =>
      obtain ⟨r, hr, h⟩ := Option.bind_eq_some_iff.1 h
      rw [foldlM_cons (step_itemOrEnd hr), h]

theorem yields_array {items : List Value} (h : ∀ v ∈ items, Yields v.tokens v) :
    Yields (Value.array items).tokens (.array items) := by
  intro frames
  have hopen : step (.inside .value frames) .openArray =
      some (.inside .itemOrEnd (.array [] :: frames)) := rfl
  rw [Value.tokens, List.cons_append, foldlM_cons hopen]
  cases items with
  | nil => exact foldlM_single _ _
  | cons v others =>
      rw [foldlM_append (foldlM_itemOrEnd (foldlM_items h [] frames)), List.append_nil]
      refine (foldlM_single _ _).trans ?_
      rw [step, List.reverse_reverse]

/-! ### Objects -/

theorem foldlM_members {m : Text × Value} {others : List (Text × Value)}
    (h : ∀ n ∈ m :: others, Yields n.2.tokens n.2) (held : List (Text × Value))
    (frames : List Frame) :
    (Value.memberTokens (m :: others)).foldlM step (.inside .key (.object held :: frames)) =
      some (.inside .more (.object ((m :: others).reverse ++ held) :: frames)) := by
  induction others generalizing m held with
  | nil => exact h m List.mem_cons_self _
  | cons n others ih =>
      have hm : (.text m.1 :: .colon :: m.2.tokens).foldlM step
          (.inside .key (.object held :: frames)) =
            some (.inside .more (.object (m :: held) :: frames)) := h m List.mem_cons_self _
      have hcomma : step (.inside .more (.object (m :: held) :: frames)) .comma =
          some (.inside .key (.object (m :: held) :: frames)) := rfl
      rw [Value.memberTokens, foldlM_append hm, foldlM_cons hcomma,
        ih fun u hu => h u (List.mem_cons_of_mem m hu)]
      · simp
      · exact List.cons_ne_nil n others

theorem yields_object {members : List (Text × Value)}
    (h : ∀ m ∈ members, Yields m.2.tokens m.2) :
    Yields (Value.object members).tokens (.object members) := by
  intro frames
  have hopen : step (.inside .value frames) .openObject =
      some (.inside .keyOrEnd (.object [] :: frames)) := rfl
  rw [Value.tokens, List.cons_append, foldlM_cons hopen]
  cases members with
  | nil => exact foldlM_single _ _
  | cons m others =>
      have hmembers := foldlM_members h [] frames
      -- A key follows the start of an object as it follows a comma.
      have hfirst : (Value.memberTokens (m :: others)).foldlM step
          (.inside .keyOrEnd (.object [] :: frames)) =
            (Value.memberTokens (m :: others)).foldlM step
              (.inside .key (.object [] :: frames)) := by
        cases others <;> rfl
      rw [foldlM_append (hfirst.trans hmembers), List.append_nil]
      refine (foldlM_single _ _).trans ?_
      rw [step, List.reverse_reverse]

/-- The tokens of a value make up that value wherever they stand. -/
theorem yields_tokens {v : Value} (h : v.Whole) : Yields v.tokens v := by
  induction h with
  | null => exact yields_single fun _ => rfl
  | bool b => exact yields_single fun _ => rfl
  | integer i => exact yields_single fun _ => rfl
  | string t => exact yields_single fun _ => rfl
  | array _ ih => exact yields_array ih
  | object _ ih => exact yields_object ih

end Reading

/-- A text with the tokens of a value is a document of that value. -/
theorem Value.Whole.parse?_of_tokens {v : Value} (h : v.Whole) {text : String}
    (htext : tokens? text.toList = some v.tokens) : Value.parse? text = some v := by
  rw [Value.parse?, htext, Option.bind_some, Value.ofTokens?, Reading.yields_tokens h []]
  rfl

/-! A written document is read as what it was written from. -/

theorem Value.Whole.parse?_pretty {v : Value} (h : v.Whole) : Value.parse? v.pretty = some v :=
  h.parse?_of_tokens (tokens?_pretty h)

theorem Value.Whole.parse?_render {v : Value} (h : v.Whole) : Value.parse? v.render = some v :=
  h.parse?_of_tokens (tokens?_render h)

end Cartridge.Json
