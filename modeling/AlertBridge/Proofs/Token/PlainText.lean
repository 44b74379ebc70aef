import AlertBridge.Token.Text
import AlertBridge.Proofs.Token.Subtree

/-!
# What is seen of a tree of tokens

`Token.plainText` reads a tree with a list of the tokens that are still to be read. What it reads
of one token does not depend on what follows, so the text of a token with children is the texts of
its children, one after the other.
-/

namespace AlertBridge.Token

/-- The walk reads what is to be read one after the other, by what it does with the first token. -/
theorem visibleTexts_append (todo more : List Token) :
    visibleTexts (todo ++ more) = visibleTexts todo ++ visibleTexts more := by
  fun_induction visibleTexts todo with
  | case1 => rfl
  | case2 t rest h ih => rw [List.cons_append, visibleTexts, if_pos h, ih, List.cons_append]
  | case3 t rest h h' ih =>
    rw [List.cons_append, visibleTexts, if_neg h, if_pos h', ← ih, List.append_assoc]
  | case4 t rest h h' h'' ih =>
    rw [List.cons_append, visibleTexts, if_neg h, if_neg h', if_pos h'', ih, List.cons_append]
  | case5 t rest h h' h'' h''' ih =>
    rw [List.cons_append, visibleTexts, if_neg h, if_neg h', if_neg h'', if_pos h''', ih]
  | case6 t rest h h' h'' h''' ih =>
    rw [List.cons_append, visibleTexts, if_neg h, if_neg h', if_neg h'', if_neg h''', ih,
      List.cons_append]

theorem concat_visibleTexts (ts : List Token) :
    concat (visibleTexts ts) = concat (ts.map plainText) := by
  induction ts with
  | nil => simp [visibleTexts]
  | cons t ts ih =>
    rw [← List.singleton_append, visibleTexts_append, concat_append, ih, List.singleton_append,
      List.map_cons, concat_cons, plainText]

/-- The text of a token with children. -/
theorem plainText_of_children_ne_nil {t : Token} (h : t.children ≠ []) :
    t.plainText = concat (t.children.map plainText) := by
  have hnot : (t.isReference && t.children.isEmpty) = false := by simp [h]
  have hsome : (!t.children.isEmpty) = true := by simpa using h
  rw [plainText, visibleTexts, if_neg (by simp [hnot]), if_pos hsome, List.append_nil,
    concat_visibleTexts]

/-- The text of a token without children. -/
theorem plainText_of_children_eq_nil {t : Token} (h : t.children = []) :
    t.plainText =
      if t.isReference then t.text
      else if t.kind = .codespan then unescapeHtml t.text
      else if t.kind = .br then "" else t.text := by
  rw [plainText, visibleTexts]
  simp only [h, List.isEmpty_nil, Bool.and_true, Bool.not_true, Bool.false_eq_true, if_false,
    visibleTexts]
  split
  · simp
  split
  · simp
  split <;> simp

/-- Nothing is seen of a token without children and without a text. -/
theorem plainText_of_empty {t : Token} (h : t.children = []) (htext : t.text = "") :
    t.plainText = "" := by
  have hunescape : unescapeHtml "" = "" := by decide +kernel
  rw [plainText_of_children_eq_nil h, htext, hunescape, ite_self, ite_self, ite_self]

/-- The text of a token without a text of its own is that of its children. -/
theorem plainText_of_text_eq_empty {t : Token} (htext : t.text = "") :
    t.plainText = concat (t.children.map plainText) := by
  by_cases hnil : t.children = []
  · rw [plainText_of_empty hnil htext, hnil, List.map_nil, concat_nil]
  · exact plainText_of_children_ne_nil hnil

end AlertBridge.Token
