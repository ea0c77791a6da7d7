import HostBridge.Proofs.JsonLexing

/-!
# Reading what is written

Every tree has one list of tokens that is read as this tree, and no other list is. So a text
is read as a tree exactly if it is cut into the tokens of the tree, and for a document that is
written it is left to show into which tokens its text is cut.

## Main definitions

- `Json.Tree.tokens` — the tokens of a tree
- `Json.Tree.parse?_eq_some_iff` — a text is read as a tree if its tokens are those of the tree
- `Json.Document.Plain`, `Json.Document.tree` — documents with integers and strings only, and
  what they are read as
- `Json.Document.parse?_write` — the law
-/

namespace HostBridge.Json

-- ════════════════════════════════════════════════════════════════════════
-- The tokens of a tree
-- ════════════════════════════════════════════════════════════════════════

namespace Tree

mutual

/-- The tokens of a tree. -/
def tokens : Tree → List Token
  | null => [.null]
  | bool b => [.bool b]
  | number n => [.number n]
  | string s => [.string s]
  | array [] => [.openArray, .closeArray]
  | array (v :: rest) => .openArray :: v.tokens ++ moreItems rest
  | object [] => [.openObject, .closeObject]
  | object ((key, v) :: rest) =>
    .openObject :: .string key :: .colon :: v.tokens ++ moreMembers rest

/-- The tokens behind the first item of an array. -/
def moreItems : List Tree → List Token
  | [] => [.closeArray]
  | v :: rest => .comma :: v.tokens ++ moreItems rest

/-- The tokens behind the first member of an object. -/
def moreMembers : List (CodePoints × Tree) → List Token
  | [] => [.closeObject]
  | (key, v) :: rest => .comma :: .string key :: .colon :: v.tokens ++ moreMembers rest

end

/-- No value starts with the end of an array, so behind an opening bracket its first token tells
    that it is one. -/
theorem run_items (t : Tree) (frames : List Frame) (rest : List Token) :
    (Reading.items frames).run (t.tokens ++ rest) =
      (Reading.value (.array [] :: frames)).run (t.tokens ++ rest) := by
  cases t with
  | array items => cases items <;> rfl
  | object members => cases members <;> rfl
  | null | bool | number | string => rfl

mutual

/-- The tokens of a tree are read as the tree. -/
theorem run_tokens (t : Tree) (frames : List Frame) (rest : List Token) :
    (Reading.value frames).run (t.tokens ++ rest) = (Reading.done t frames).run rest := by
  match t with
  | null | bool _ | number _ | string _ => rfl
  | array [] => rfl
  | array (v :: items) =>
    have hopen : (Reading.value frames).run ((array (v :: items)).tokens ++ rest) =
        (Reading.items frames).run (v.tokens ++ (moreItems items ++ rest)) := by
      simp only [tokens, List.cons_append, List.append_assoc]
      rfl
    rw [hopen, run_items, run_tokens v, run_moreItems v [] items]
    rfl
  | object [] => rfl
  | object ((key, v) :: members) =>
    have hopen : (Reading.value frames).run ((object ((key, v) :: members)).tokens ++ rest) =
        (Reading.value (.object [] key :: frames)).run
          (v.tokens ++ (moreMembers members ++ rest)) := by
      simp only [tokens, List.cons_append, List.append_assoc]
      rfl
    rw [hopen, run_tokens v, run_moreMembers key v [] members]
    rfl

theorem run_moreItems (v : Tree) (read items : List Tree) (frames : List Frame)
    (rest : List Token) :
    (Reading.done v (.array read :: frames)).run (moreItems items ++ rest) =
      (Reading.done (.array (read.reverse ++ v :: items)) frames).run rest := by
  match items with
  | [] => simp [moreItems, Reading.run, Reading.step, Reading.afterValue]
  | w :: items =>
    have hcomma : (Reading.done v (.array read :: frames)).run (moreItems (w :: items) ++ rest) =
        (Reading.value (.array (v :: read) :: frames)).run
          (w.tokens ++ (moreItems items ++ rest)) := by
      simp only [moreItems, List.cons_append, List.append_assoc]
      rfl
    rw [hcomma, run_tokens w, run_moreItems w (v :: read) items, List.reverse_cons,
      List.append_assoc]
    rfl

theorem run_moreMembers (key : CodePoints) (v : Tree) (read members : List (CodePoints × Tree))
    (frames : List Frame) (rest : List Token) :
    (Reading.done v (.object read key :: frames)).run (moreMembers members ++ rest) =
      (Reading.done (.object (read.reverse ++ (key, v) :: members)) frames).run rest := by
  match members with
  | [] => simp [moreMembers, Reading.run, Reading.step, Reading.afterValue]
  | (key', w) :: members =>
    have hcomma : (Reading.done v (.object read key :: frames)).run
          (moreMembers ((key', w) :: members) ++ rest) =
        (Reading.value (.object ((key, v) :: read) key' :: frames)).run
          (w.tokens ++ (moreMembers members ++ rest)) := by
      simp only [moreMembers, List.cons_append, List.append_assoc]
      rfl
    rw [hcomma, run_tokens w, run_moreMembers key' w ((key, v) :: read) members,
      List.reverse_cons, List.append_assoc]
    rfl

end

theorem ofTokens?_tokens (t : Tree) : ofTokens? t.tokens = some t := by
  have hrun := run_tokens t [] []
  rw [List.append_nil] at hrun
  rw [ofTokens?, hrun]
  rfl

/-- The tokens of items that others follow. -/
def listedItems (items : List Tree) : List Token :=
  items.flatMap fun v => v.tokens ++ [.comma]

/-- The tokens of members that others follow. -/
def listedMembers (members : List (CodePoints × Tree)) : List Token :=
  members.flatMap fun (key, v) => .string key :: .colon :: v.tokens ++ [.comma]

theorem tokens_append_moreItems (w : Tree) (items : List Tree) (v : Tree) :
    w.tokens ++ moreItems (items ++ [v]) =
      listedItems (w :: items) ++ v.tokens ++ [.closeArray] := by
  induction items generalizing w with
  | nil => simp [moreItems, listedItems]
  | cons u items ih =>
    rw [List.cons_append, moreItems, List.cons_append, ih]
    simp [listedItems]

theorem tokens_array_concat (items : List Tree) (v : Tree) :
    (array (items ++ [v])).tokens =
      .openArray :: (listedItems items ++ v.tokens ++ [.closeArray]) := by
  cases items with
  | nil => rfl
  | cons w items => exact congrArg (Token.openArray :: ·) (tokens_append_moreItems w items v)

theorem tokens_append_moreMembers (w : Tree) (members : List (CodePoints × Tree))
    (key : CodePoints) (v : Tree) :
    w.tokens ++ moreMembers (members ++ [(key, v)]) =
      w.tokens ++ .comma :: listedMembers members ++ .string key :: .colon :: v.tokens ++
        [.closeObject] := by
  induction members generalizing w with
  | nil => simp [moreMembers, listedMembers]
  | cons m members ih =>
    obtain ⟨k, u⟩ := m
    have hrest := ih u
    rw [List.cons_append, moreMembers, List.cons_append, List.cons_append, List.cons_append,
      hrest]
    simp [listedMembers]

theorem tokens_object_concat (members : List (CodePoints × Tree)) (key : CodePoints) (v : Tree) :
    (object (members ++ [(key, v)])).tokens =
      .openObject :: (listedMembers members ++ .string key :: .colon :: v.tokens ++
        [.closeObject]) := by
  cases members with
  | nil => rfl
  | cons m members =>
    obtain ⟨k, w⟩ := m
    have hrest := tokens_append_moreMembers w members key v
    rw [List.cons_append, tokens, List.cons_append, List.cons_append, List.cons_append, hrest]
    simp [listedMembers]

end Tree

namespace Reading

/-- The tokens in front of a value inside the given frames. -/
def before : List Frame → List Token
  | [] => []
  | .array read :: frames => before frames ++ .openArray :: Tree.listedItems read.reverse
  | .object read k :: frames =>
    before frames ++ .openObject :: Tree.listedMembers read.reverse ++ [.string k, .colon]

/-- The tokens that have been read. -/
def read : Reading → List Token
  | value frames => before frames
  | items frames => before frames ++ [.openArray]
  | key members frames => before frames ++ .openObject :: Tree.listedMembers members.reverse
  | colon members k frames =>
    before frames ++ .openObject :: Tree.listedMembers members.reverse ++ [.string k]
  | done v frames => before frames ++ v.tokens

theorem read_startValue {frames : List Frame} {t : Token} {r : Reading}
    (h : startValue frames t = some r) : r.read = before frames ++ [t] := by
  cases t <;> simp only [startValue, Option.some.injEq, reduceCtorEq] at h
  all_goals
    subst h
    simp [read, Tree.tokens, Tree.listedMembers]

theorem read_afterValue {v : Tree} {frames : List Frame} {t : Token} {r : Reading}
    (h : afterValue v frames t = some r) : r.read = before frames ++ v.tokens ++ [t] := by
  unfold afterValue at h
  split at h
  · obtain rfl := Option.some.inj h
    simp [read, before, Tree.listedItems]
  · obtain rfl := Option.some.inj h
    simp [read, before, Tree.tokens_array_concat]
  · obtain rfl := Option.some.inj h
    simp [read, before, Tree.listedMembers]
  · obtain rfl := Option.some.inj h
    simp [read, before, Tree.tokens_object_concat]
  · nomatch h

/-- A token that is read is behind those that were. -/
theorem read_step {r next : Reading} {t : Token} (h : r.step t = some next) :
    next.read = r.read ++ [t] := by
  unfold step at h
  split at h
  · exact read_startValue h
  · obtain rfl := Option.some.inj h
    simp [read, Tree.tokens]
  · rw [read_startValue h]
    simp [read, before, Tree.listedItems]
  · obtain rfl := Option.some.inj h
    simp [read, Tree.tokens, Tree.listedMembers]
  · obtain rfl := Option.some.inj h
    simp [read]
  · nomatch h
  · obtain rfl := Option.some.inj h
    simp [read, before]
  · nomatch h
  · exact read_afterValue h

theorem read_run {r last : Reading} {tokens : List Token} (h : r.run tokens = some last) :
    last.read = r.read ++ tokens := by
  induction tokens generalizing r with
  | nil =>
    obtain rfl := Option.some.inj h
    exact (List.append_nil _).symm
  | cons t tokens ih =>
    obtain ⟨next, hstep, hrun⟩ := Option.bind_eq_some_iff.mp h
    rw [ih hrun, read_step hstep, List.append_assoc, List.singleton_append]

end Reading

namespace Tree

/-- No tokens but those of a tree are read as the tree. -/
theorem ofTokens?_eq_some_iff {tokens : List Token} {t : Tree} :
    ofTokens? tokens = some t ↔ tokens = t.tokens := by
  constructor
  · intro h
    obtain ⟨last, hrun, hresult⟩ := Option.bind_eq_some_iff.mp h
    have hlast : last = .done t [] := by
      unfold Reading.result? at hresult
      split at hresult
      · rw [Option.some.inj hresult]
      · nomatch hresult
    have hread := Reading.read_run hrun
    rw [hlast] at hread
    exact hread.symm
  · rintro rfl
    exact ofTokens?_tokens t

theorem parse?_eq_some_iff {text : String} {t : Tree} :
    parse? text = some t ↔ Token.lex? text.toList = some t.tokens := by
  rw [parse?, Option.bind_eq_some_iff]
  simp only [ofTokens?_eq_some_iff, exists_eq_right]

end Tree

-- ════════════════════════════════════════════════════════════════════════
-- The tokens of what is written
-- ════════════════════════════════════════════════════════════════════════

namespace Document

mutual

/-- Documents whose numbers are integers, without halves of surrogate pairs. -/
def Plain : Document → Prop
  | number text => ∃ n : Int, text = toString n
  | string s => ∃ text : String, s = CodePoints.ofString text
  | array items => PlainItems items
  | object members => PlainMembers members
  | _ => True

/-- Plain items of an array. -/
def PlainItems : List Document → Prop
  | [] => True
  | v :: rest => v.Plain ∧ PlainItems rest

/-- Plain members of an object. -/
def PlainMembers : List (CodePoints × Document) → Prop
  | [] => True
  | (key, v) :: rest =>
    (∃ text : String, key = CodePoints.ofString text) ∧ v.Plain ∧ PlainMembers rest

end

/-- The number that a text starts with; zero if there is none. -/
def numberOf (text : String) : Number :=
  ((Token.scanNumber text.toList).map (·.1)).getD (.ofInt 0)

theorem numberOf_toString (n : Int) : numberOf (toString n) = .ofInt n := by
  have hscan := Token.scanNumber_int n Token.stops_nil
  rw [List.append_nil] at hscan
  rw [numberOf, hscan]
  rfl

mutual

/-- The tree that a document is read as. -/
def tree : Document → Tree
  | null => .null
  | bool b => .bool b
  | number text => .number (numberOf text)
  | string s => .string s
  | array items => .array (itemTrees items)
  | object members => .object (memberTrees members)

/-- The trees of the items of an array. -/
def itemTrees : List Document → List Tree
  | [] => []
  | v :: rest => v.tree :: itemTrees rest

/-- The trees of the members of an object. -/
def memberTrees : List (CodePoints × Document) → List (CodePoints × Tree)
  | [] => []
  | (key, v) :: rest => (key, v.tree) :: memberTrees rest

end

theorem stops_itemChars (items : List Document) (rest : List Char) :
    Token.Stops (itemChars items ++ rest) := by
  cases items <;> simp [Token.Stops, itemChars]

theorem stops_memberChars (members : List (CodePoints × Document)) (rest : List Char) :
    Token.Stops (memberChars members ++ rest) := by
  cases members <;> simp [Token.Stops, memberChars]

open Token in
mutual

/-- The text of a plain document is cut into the tokens of its tree, if what stands behind it
    cannot belong to a number. -/
theorem lex?_chars (d : Document) (h : d.Plain) {rest : List Char} (hrest : Stops rest) :
    lex? (d.chars ++ rest) = (lex? rest).map (d.tree.tokens ++ ·) := by
  match d with
  | null | bool true | bool false => exact lex?_cons_of_scan rfl rfl
  | number text =>
    obtain ⟨n, rfl⟩ := h
    rw [chars, lex?_int n hrest, tree, numberOf_toString]
    rfl
  | string s =>
    obtain ⟨text, rfl⟩ := h
    exact lex?_literal text rest
  | array [] =>
    rw [chars, List.cons_append, List.singleton_append, lex?_mark (t := .openArray) rfl,
      lex?_mark (t := .closeArray) rfl, Option.map_map]
    rfl
  | array (v :: items) =>
    obtain ⟨hv, hitems⟩ := h
    have htext : (array (v :: items)).chars ++ rest =
        '[' :: (v.chars ++ (itemChars items ++ rest)) := by
      simp [chars]
    rw [htext, lex?_mark (t := .openArray) rfl, lex?_chars v hv (stops_itemChars items rest),
      lex?_itemChars items hitems hrest]
    simp [Function.comp_def, tree, itemTrees, Tree.tokens]
  | object [] =>
    rw [chars, List.cons_append, List.singleton_append, lex?_mark (t := .openObject) rfl,
      lex?_mark (t := .closeObject) rfl, Option.map_map]
    rfl
  | object ((key, v) :: members) =>
    obtain ⟨⟨text, rfl⟩, hv, hmembers⟩ := h
    have htext : (object ((CodePoints.ofString text, v) :: members)).chars ++ rest =
        '\x7b' :: (literal (CodePoints.ofString text) ++
          ':' :: (v.chars ++ (memberChars members ++ rest))) := by
      simp [chars]
    rw [htext, lex?_mark (t := .openObject) rfl, lex?_literal, lex?_mark (t := .colon) rfl,
      lex?_chars v hv (stops_memberChars members rest), lex?_memberChars members hmembers hrest]
    simp [Function.comp_def, tree, memberTrees, Tree.tokens]

theorem lex?_itemChars (items : List Document) (h : PlainItems items) {rest : List Char}
    (hrest : Stops rest) :
    lex? (itemChars items ++ rest) =
      (lex? rest).map (Tree.moreItems (itemTrees items) ++ ·) := by
  match items with
  | [] => exact lex?_cons_of_scan rfl rfl
  | v :: items =>
    obtain ⟨hv, hitems⟩ := h
    have htext : itemChars (v :: items) ++ rest =
        ',' :: (v.chars ++ (itemChars items ++ rest)) := by
      simp [itemChars]
    rw [htext, lex?_mark (t := .comma) rfl, lex?_chars v hv (stops_itemChars items rest),
      lex?_itemChars items hitems hrest]
    simp [Function.comp_def, itemTrees, Tree.moreItems]

theorem lex?_memberChars (members : List (CodePoints × Document)) (h : PlainMembers members)
    {rest : List Char} (hrest : Stops rest) :
    lex? (memberChars members ++ rest) =
      (lex? rest).map (Tree.moreMembers (memberTrees members) ++ ·) := by
  match members with
  | [] => exact lex?_cons_of_scan rfl rfl
  | (key, v) :: members =>
    obtain ⟨⟨text, rfl⟩, hv, hmembers⟩ := h
    have htext : memberChars ((CodePoints.ofString text, v) :: members) ++ rest =
        ',' :: (literal (CodePoints.ofString text) ++
          ':' :: (v.chars ++ (memberChars members ++ rest))) := by
      simp [memberChars]
    rw [htext, lex?_mark (t := .comma) rfl, lex?_literal, lex?_mark (t := .colon) rfl,
      lex?_chars v hv (stops_memberChars members rest), lex?_memberChars members hmembers hrest]
    simp [Function.comp_def, memberTrees, Tree.moreMembers]

end

/-- The text of a plain document is read as its tree. -/
theorem parse?_write {d : Document} (h : d.Plain) : Tree.parse? d.write = some d.tree := by
  have hlex := lex?_chars d h Token.stops_nil
  rw [List.append_nil, Token.lex?_nil, Option.map_some, List.append_nil] at hlex
  rw [Tree.parse?_eq_some_iff, write, String.toList_ofList]
  exact hlex

end Document

end HostBridge.Json
