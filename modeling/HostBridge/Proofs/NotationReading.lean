import HostBridge.Proofs.JsonWriting
import HostBridge.Proofs.ScriptLiterals
import HostBridge.Script.Notation

/-!
# What scripts read

The reader of scripts cuts words out of a text by other rules than the host, and it looks at one
token at a time. On a text that the host reads as a tree it finds the same tokens one after the
other, because behind a word and behind a number of such a text stands a blank or a mark. So it
reads the value of the tree.

## Main definitions

- `Notation.Cursor.Leads` — a reader stands in front of the given tokens
- `ScriptValue.ofTree` — the value of a tree: of several members with one key the last counts

## Main results

- `Notation.readValue_tokens` — a reader in front of the tokens of a tree reads its value
- `ScriptValue.parse_of_parse?` — so a text that the host reads is read by scripts
-/

namespace HostBridge

-- ════════════════════════════════════════════════════════════════════════
-- Where tokens end
-- ════════════════════════════════════════════════════════════════════════

namespace Json.Token

/-- Tokens that are a character by themselves. -/
def IsMark (t : Token) : Prop :=
  ∃ c, mark? c = some t

/-- Tokens in front of which any other token ends. -/
def Follow (tokens : List Token) : Prop :=
  ∀ t ∈ tokens.head?, t.IsMark

/-- A text in front of which any token ends: nothing, or a blank or a mark at its start. -/
def Ends (s : List Char) : Prop :=
  ∀ c ∈ s.head?, isSpace c = true ∨ (mark? c).isSome

/-- The blanks and the marks. -/
def endings : List Char :=
  [' ', '\t', '\n', '\r', '\x7b', '\x7d', '[', ']', ',', ':']

theorem Ends.mem {c : Char} {s : List Char} (h : Ends (c :: s)) : c ∈ endings := by
  rcases h c rfl with hspace | hmark
  · simp only [isSpace, Bool.or_eq_true, decide_eq_true_eq] at hspace
    rcases hspace with ((rfl | rfl) | rfl) | rfl <;> decide
  · unfold mark? at hmark
    split at hmark
    case h_7 => exact absurd hmark Bool.false_ne_true
    all_goals decide

theorem Ends.stops {s : List Char} (h : Ends s) : Stops s := by
  cases s with
  | nil => exact stops_nil
  | cons c s =>
    rintro d hd
    obtain rfl := Option.some.inj hd
    have hall : (endings.all fun c => !c.isDigit && c != '.' && c != 'e' && c != 'E') = true := by
      decide
    simpa [and_assoc] using List.all_eq_true.mp hall c h.mem

theorem scan_of_mark? {c : Char} {t : Token} (h : mark? c = some t) (rest : List Char) :
    scan c rest = some (t, rest) := by
  unfold mark? at h
  split at h
  case h_7 => nomatch h
  all_goals
    obtain rfl := Option.some.inj h
    rfl

theorem isMark_of_scan {c : Char} {rest tail : List Char} {t : Token}
    (h : scan c rest = some (t, tail)) (hmark : t.IsMark) : mark? c = some t := by
  obtain ⟨d, hd⟩ := hmark
  have hother : ∀ c, mark? c ≠ some .null ∧ (∀ b, mark? c ≠ some (.bool b)) ∧
      (∀ n, mark? c ≠ some (.number n)) ∧ ∀ s, mark? c ≠ some (.string s) := by
    intro c
    unfold mark?
    split <;> simp
  obtain ⟨hnull, hbool, hnumber, hstring⟩ := hother d
  unfold scan at h
  split at h
  case h_7 =>
    obtain ⟨x, -, heq⟩ := Option.map_eq_some_iff.mp h
    cases heq
    exact absurd hd (hstring _)
  case h_11 =>
    obtain ⟨x, -, heq⟩ := Option.map_eq_some_iff.mp h
    cases heq
    exact absurd hd (hnumber _)
  case h_8 | h_9 | h_10 =>
    split at h
    · cases h
      first | exact absurd hd hnull | exact absurd hd (hbool _)
    · nomatch h
  all_goals
    cases h
    rfl

/-- A text that is cut into such tokens starts with a blank or a mark. -/
theorem ends_of_lex? {s : List Char} {tokens : List Token} (h : lex? s = some tokens)
    (hfollow : Follow tokens) : Ends s := by
  cases s with
  | nil => exact fun c hc => nomatch hc
  | cons c rest =>
    rintro d hd
    obtain rfl := Option.some.inj hd
    cases hspace : isSpace c with
    | true => exact Or.inl rfl
    | false =>
      rw [lex?_cons hspace] at h
      obtain ⟨⟨t, tail⟩, hscan, h⟩ := Option.bind_eq_some_iff.mp h
      obtain ⟨others, -, rfl⟩ := Option.map_eq_some_iff.mp h
      have hmark := isMark_of_scan hscan (hfollow t rfl)
      exact Or.inr (by rw [hmark]; rfl)

theorem lex?_dropWhile_isSpace (s : List Char) : lex? (s.dropWhile isSpace) = lex? s := by
  induction s with
  | nil => rfl
  | cons c rest ih =>
    cases hspace : isSpace c with
    | true => rw [List.dropWhile_cons_of_pos hspace, ih, lex?_cons_of_isSpace hspace]
    | false => rw [List.dropWhile_cons_of_neg (by simp [hspace])]

/-- A text has no more tokens than characters. -/
theorem length_le_of_lex? {s : List Char} {tokens : List Token} (h : lex? s = some tokens) :
    tokens.length ≤ s.length := by
  have hany (fuel : Nat) (s : List Char) (tokens : List Token)
      (h : lexWithin? fuel s = some tokens) : tokens.length ≤ fuel := by
    induction fuel generalizing s tokens with
    | zero =>
      cases s with
      | nil =>
        obtain rfl := Option.some.inj h
        exact Nat.le_refl _
      | cons c rest => nomatch h
    | succ fuel ih =>
      cases s with
      | nil =>
        obtain rfl := Option.some.inj h
        exact Nat.zero_le _
      | cons c rest =>
        unfold lexWithin? at h
        split at h
        · exact Nat.le_succ_of_le (ih rest tokens h)
        · obtain ⟨⟨t, tail⟩, -, h⟩ := Option.bind_eq_some_iff.mp h
          obtain ⟨others, hothers, rfl⟩ := Option.map_eq_some_iff.mp h
          exact Nat.succ_le_succ (ih tail others hothers)
  exact hany s.length s tokens h

end Json.Token

-- ════════════════════════════════════════════════════════════════════════
-- One token after the other
-- ════════════════════════════════════════════════════════════════════════

namespace Notation

open Json (Tree)

/-- What a reader of scripts makes of a token of the host. -/
def Token.ofJson : Json.Token → Token
  | .openObject => .mark '\x7b'
  | .closeObject => .mark '\x7d'
  | .openArray => .mark '['
  | .closeArray => .mark ']'
  | .comma => .mark ','
  | .colon => .mark ':'
  | .null => .word ['n', 'u', 'l', 'l']
  | .bool true => .word ['t', 'r', 'u', 'e']
  | .bool false => .word ['f', 'a', 'l', 's', 'e']
  | .number n => .number n
  | .string s => .string s

/-- Tokens of which the second does not run into the first. -/
def Spaced : List Json.Token → Prop
  | [] => True
  | t :: tokens => t.IsMark ∨ Json.Token.Follow tokens

theorem span_isWordPart {s : List Char} (h : Json.Token.Ends s) :
    s.takeWhile isWordPart = [] ∧ s.dropWhile isWordPart = s := by
  cases s with
  | nil => exact ⟨rfl, rfl⟩
  | cons c s =>
    have hall : (Json.Token.endings.all fun c => !isWordPart c) = true := by decide
    have hc : ¬isWordPart c = true := by simpa using List.all_eq_true.mp hall c h.mem
    exact ⟨List.takeWhile_cons_of_neg hc, List.dropWhile_cons_of_neg hc⟩

namespace Cursor

/-- A reader that looks at the first of some tokens and has the text of the others before it. -/
def Leads (c : Cursor) : List Json.Token → Prop
  | [] => c.token = .finish
  | t :: tokens => c.token = .ofJson t ∧ Json.Token.lex? c.rest = some tokens

theorem of_cons {c : Char} (hspace : Json.Token.isSpace c = false) (hquote : c ≠ '"')
    (rest : List Char) :
    Cursor.of (c :: rest) =
      if isWordPart c && !c.isDigit then
        .ok ⟨.word (c :: rest.takeWhile isWordPart), rest.dropWhile isWordPart⟩
      else match Script.scanNumber (c :: rest) with
        | some (n, tail) => .ok ⟨.number n, tail⟩
        | none => if 0x80 ≤ c.toNat then .error .character else .ok ⟨.mark c, rest⟩ := by
  unfold Cursor.of
  rw [List.dropWhile_cons_of_neg (by simp [hspace])]
  split
  · next heq => nomatch heq
  · next heq => exact absurd (List.cons.inj heq).1 hquote
  · next heq =>
    obtain ⟨rfl, rfl⟩ := List.cons.inj heq
    rfl

/-- Letters with the end of a word behind them are a word. -/
theorem of_word {c : Char} {letters tail : List Char} (hc : isWordPart c && !c.isDigit)
    (hspace : Json.Token.isSpace c = false) (hquote : c ≠ '"')
    (hletters : letters.all isWordPart = true) (htail : Json.Token.Ends tail) :
    Cursor.of (c :: (letters ++ tail)) = .ok ⟨.word (c :: letters), tail⟩ := by
  obtain ⟨htake, hdrop⟩ := span_isWordPart htail
  rw [List.all_eq_true] at hletters
  rw [of_cons hspace hquote, if_pos hc, List.takeWhile_append_of_pos hletters, htake,
    List.dropWhile_append_of_pos hletters, hdrop, List.append_nil]

/-- A number starts with a digit or with a minus. -/
theorem of_number {c : Char} {rest tail : List Char} {n : Json.Number}
    (h : Json.Token.scanNumber (c :: rest) = some (n, tail)) (htail : Json.Token.Ends tail) :
    Cursor.of (c :: rest) = .ok ⟨.number n, tail⟩ := by
  have hc : c = '-' ∨ c.isDigit = true := by
    by_cases hsign : c = '-'
    · exact Or.inl hsign
    · have hne : (c :: rest).head? ≠ some '-' := fun heq => hsign (Option.some.inj heq)
      rw [Json.Token.scanNumber_of_ne_minus hne] at h
      obtain ⟨_, _, _, _, _, hwhole, -⟩ := Script.exists_parts_of_scanUnsigned h
      obtain ⟨⟨d, digits, heq, hd⟩, -⟩ := Script.exists_digit_of_scanWhole hwhole
      obtain ⟨rfl, -⟩ := List.cons.inj heq
      exact Or.inr hd
  have hkind : Json.Token.isSpace c = false ∧ c ≠ '"' ∧ (isWordPart c && !c.isDigit) = false := by
    rcases hc with rfl | hdigit
    · decide
    · refine ⟨?_, ?_, by rw [hdigit, Bool.not_true, Bool.and_false]⟩
      · refine Bool.eq_false_iff.mpr fun hspace => ?_
        simp only [Json.Token.isSpace, Bool.or_eq_true, decide_eq_true_eq] at hspace
        rcases hspace with ((rfl | rfl) | rfl) | rfl <;> exact absurd hdigit (by decide)
      · rintro rfl
        exact absurd hdigit (by decide)
  obtain ⟨hspace, hquote, hword⟩ := hkind
  rw [of_cons hspace hquote, hword, if_neg Bool.false_ne_true,
    Script.scanNumber_of_scanNumber h htail.stops]

theorem of_mark {c : Char} {t : Json.Token} (h : Json.Token.mark? c = some t) (rest : List Char) :
    Cursor.of (c :: rest) = .ok ⟨.ofJson t, rest⟩ := by
  unfold Json.Token.mark? at h
  split at h
  case h_7 => nomatch h
  all_goals
    obtain rfl := Option.some.inj h
    rfl

theorem eq_append_of_take {s letters : List Char} {k : Nat} (h : s.take k = letters) :
    s = letters ++ s.drop k := by
  rw [← h, List.take_append_drop]

/-- The first token of a text is what a reader sees there, if it ends where the next starts. -/
theorem of_scan {c : Char} {rest tail : List Char} {t : Json.Token}
    (hspace : Json.Token.isSpace c = false) (h : Json.Token.scan c rest = some (t, tail))
    (htail : t.IsMark ∨ Json.Token.Ends tail) : Cursor.of (c :: rest) = .ok ⟨.ofJson t, tail⟩ := by
  cases hmark : Json.Token.mark? c with
  | some t' =>
    have hsame := Json.Token.scan_of_mark? hmark rest
    obtain ⟨rfl, rfl⟩ := Prod.mk.inj (Option.some.inj (hsame.symm.trans h))
    exact of_mark hmark rest
  | none =>
    have hends : Json.Token.Ends tail := htail.resolve_left fun hmark' => by
      rw [Json.Token.isMark_of_scan h hmark'] at hmark
      nomatch hmark
    unfold Json.Token.scan at h
    split at h
    case h_7 =>
      obtain ⟨⟨s, behind⟩, hs, heq⟩ := Option.map_eq_some_iff.mp h
      cases heq
      change (Script.scanString rest).map _ = _
      rw [Script.scanString_of_scanString hs]
      rfl
    case h_8 | h_9 | h_10 =>
      split at h
      · next hletters =>
        cases h
        rw [eq_append_of_take hletters]
        exact of_word rfl rfl (by decide) (by decide) hends
      · nomatch h
    case h_11 =>
      obtain ⟨⟨n, behind⟩, hn, heq⟩ := Option.map_eq_some_iff.mp h
      cases heq
      exact of_number hn hends
    all_goals nomatch hmark

/-- A reader of a text stands in front of the tokens of the text. -/
theorem exists_of_lex? {s : List Char} {tokens : List Json.Token}
    (h : Json.Token.lex? s = some tokens) (hspaced : Spaced tokens) :
    ∃ c, Cursor.of s = .ok c ∧ c.Leads tokens := by
  rw [← Json.Token.lex?_dropWhile_isSpace] at h
  cases hs : s.dropWhile Json.Token.isSpace with
  | nil =>
    rw [hs] at h
    obtain rfl := Option.some.inj h
    exact ⟨⟨.finish, []⟩, by rw [Cursor.of, hs], rfl⟩
  | cons c rest =>
    have hspace : Json.Token.isSpace c = false := by
      have hhead := List.head?_dropWhile_not Json.Token.isSpace s
      rw [hs] at hhead
      simpa using hhead
    rw [hs, Json.Token.lex?_cons hspace] at h
    obtain ⟨⟨t, tail⟩, hscan, h⟩ := Option.bind_eq_some_iff.mp h
    obtain ⟨others, hothers, rfl⟩ := Option.map_eq_some_iff.mp h
    have htail : t.IsMark ∨ Json.Token.Ends tail :=
      hspaced.imp_right (Json.Token.ends_of_lex? hothers)
    refine ⟨⟨.ofJson t, tail⟩, ?_, rfl, hothers⟩
    rw [← of_scan hspace hscan htail, Cursor.of, Cursor.of, hs,
      List.dropWhile_cons_of_neg (by simp [hspace])]

/-- From token to token. -/
theorem exists_next {c : Cursor} {t : Json.Token} {tokens : List Json.Token}
    (h : c.Leads (t :: tokens)) (hspaced : Spaced tokens) :
    ∃ behind, c.next = .ok behind ∧ behind.Leads tokens :=
  exists_of_lex? h.2 hspaced

theorem exists_behind {c : Cursor} {t : Json.Token} {tokens : List Json.Token} {mark : Char}
    (h : c.Leads (t :: tokens)) (hmark : Token.ofJson t = .mark mark) (hspaced : Spaced tokens) :
    ∃ behind, c.behind mark = .ok behind ∧ behind.Leads tokens := by
  rw [Cursor.behind, if_pos (h.1.trans hmark)]
  exact exists_next h hspaced

end Cursor

theorem follow_moreItems (items : List Tree) (rest : List Json.Token) :
    Json.Token.Follow (Tree.moreItems items ++ rest) := by
  cases items with
  | nil =>
    rintro t ht
    obtain rfl := Option.some.inj ht
    exact ⟨']', rfl⟩
  | cons v items =>
    rintro t ht
    obtain rfl := Option.some.inj ht
    exact ⟨',', rfl⟩

theorem follow_moreMembers (members : List (CodePoints × Tree)) (rest : List Json.Token) :
    Json.Token.Follow (Tree.moreMembers members ++ rest) := by
  cases members with
  | nil =>
    rintro t ht
    obtain rfl := Option.some.inj ht
    exact ⟨'\x7d', rfl⟩
  | cons m members =>
    rintro t ht
    obtain rfl := Option.some.inj ht
    exact ⟨',', rfl⟩

theorem spaced_of_follow {tokens : List Json.Token} (h : Json.Token.Follow tokens) :
    Spaced tokens := by
  cases tokens with
  | nil => trivial
  | cons t tokens => exact Or.inl (h t rfl)

/-- Marks stand around the words and the numbers of a tree. -/
theorem spaced_tokens (t : Tree) {rest : List Json.Token} (h : Json.Token.Follow rest) :
    Spaced (t.tokens ++ rest) := by
  match t with
  | .null | .bool _ | .number _ | .string _ => exact Or.inr h
  | .array [] | .array (_ :: _) => exact Or.inl ⟨'[', rfl⟩
  | .object [] | .object (_ :: _) => exact Or.inl ⟨'\x7b', rfl⟩

/-- A key ends in front of its colon. -/
theorem spaced_key (key : CodePoints) (tokens : List Json.Token) :
    Spaced (.string key :: .colon :: tokens) := by
  refine Or.inr fun t ht => ?_
  obtain rfl := Option.some.inj ht
  exact ⟨':', rfl⟩

end Notation

-- ════════════════════════════════════════════════════════════════════════
-- Values of trees
-- ════════════════════════════════════════════════════════════════════════

namespace ScriptValue

open Json (Tree)

mutual

/-- The value that a script reads where the host reads a tree. -/
def ofTree : Tree → ScriptValue
  | .null => .null
  | .bool b => .bool b
  | .number n => .number (.ofNumber n)
  | .string s => .string s
  | .array items => .array (ofItems items)
  | .object members => .object (ofMembers [] members)

/-- The values of items. -/
def ofItems : List Tree → List ScriptValue
  | [] => []
  | v :: rest => ofTree v :: ofItems rest

/-- The properties that members come to behind those that have been read. -/
def ofMembers (read : Properties) : List (CodePoints × Tree) → Properties
  | [] => read
  | (key, v) :: rest => ofMembers (Properties.put read key (some (ofTree v))) rest

end

end ScriptValue

theorem Json.Tree.length_tokens_pos (t : Json.Tree) : 0 < t.tokens.length := by
  match t with
  | .null | .bool _ | .number _ | .string _ => exact Nat.one_pos
  | .array [] | .array (_ :: _) | .object [] | .object (_ :: _) => exact Nat.succ_pos _

namespace Notation

open Json (Tree)
open ScriptValue (ofTree ofItems ofMembers)

theorem token_of_leads {c : Cursor} {t : Json.Token} {tokens : List Json.Token}
    (h : c.Leads (t :: tokens)) : c.token = Token.ofJson t :=
  h.1

theorem mark_of_leads {c : Cursor} {t : Json.Token} {tokens : List Json.Token} {mark : Char}
    (h : c.Leads (t :: tokens)) (hmark : Token.ofJson t = .mark mark) : c.token = .mark mark :=
  h.1.trans hmark

/-- No value starts with the end of an array. -/
theorem token_ne_closeArray {t : Tree} {c : Cursor} {rest : List Json.Token}
    (h : c.Leads (t.tokens ++ rest)) : c.token ≠ .mark ']' := by
  match t with
  | .null | .bool true | .bool false | .number _ | .string _ =>
    rw [token_of_leads h]
    exact nofun
  | .array [] | .array (_ :: _) | .object [] | .object (_ :: _) =>
    rw [token_of_leads h]
    decide

theorem ok_bind {α β : Type} (a : α) (f : α → Except NotationError β) :
    (Except.ok a >>= f) = f a := rfl

theorem exists_of_bind_eq_ok {α β : Type} {x : Except NotationError α}
    {f : α → Except NotationError β} {b : β} (h : (x >>= f) = .ok b) :
    ∃ a, x = .ok a ∧ f a = .ok b := by
  cases x with
  | error e => nomatch h
  | ok a => exact ⟨a, rfl, h⟩

theorem length_moreItems_pos (items : List Tree) : 0 < (Tree.moreItems items).length := by
  cases items <;> exact Nat.succ_pos _

theorem length_moreMembers_pos (members : List (CodePoints × Tree)) :
    0 < (Tree.moreMembers members).length := by
  cases members <;> exact Nat.succ_pos _

/-- Reads the value behind a key. -/
def readMember (fuel depth : Nat) (c : Cursor) : Except NotationError (ScriptValue × Cursor) := do
  readValue fuel depth (← (← c.next).behind ':')

/-- Behind a key and a colon stands its value. -/
theorem exists_start {key : CodePoints} {c : Cursor} {tokens : List Json.Token}
    (h : c.Leads (.string key :: .colon :: tokens)) (hspaced : Spaced tokens) :
    ∃ start : Cursor, (∀ fuel depth, readMember fuel depth c = readValue fuel depth start) ∧
      start.Leads tokens := by
  obtain ⟨colon, hcolon, hleads⟩ := Cursor.exists_next h (Or.inl ⟨':', rfl⟩)
  obtain ⟨start, hstart, hvalue⟩ := Cursor.exists_behind hleads rfl hspaced
  refine ⟨start, fun fuel depth => ?_, hvalue⟩
  rw [readMember, hcolon, ok_bind, hstart, ok_bind]

theorem readMembers_of_readMember (read : Properties) {key : CodePoints} {v : ScriptValue}
    {c behind : Cursor} {fuel depth : Nat} (hkey : c.token = .string key)
    (hv : readMember fuel depth c = .ok (v, behind)) :
    readMembers (fuel + 1) depth read c =
      if behind.token = .mark ',' then do
        readMembers fuel depth (Properties.put read key (some v)) (← behind.next)
      else return (Properties.put read key (some v), behind) := by
  obtain ⟨colon, hcolon, hv⟩ := exists_of_bind_eq_ok hv
  obtain ⟨start, hstart, hv⟩ := exists_of_bind_eq_ok hv
  rw [readMembers, hkey]
  simp only [hcolon, hstart, hv, ok_bind]

theorem isMark_close {t : Json.Token} (h : t = .closeArray ∨ t = .closeObject) : t.IsMark := by
  rcases h with rfl | rfl
  · exact ⟨']', rfl⟩
  · exact ⟨'\x7d', rfl⟩

/-- An empty array or object is read. -/
theorem readValue_empty {t : Tree} (ht : t = .array [] ∨ t = .object []) (fuel : Nat)
    {depth : Nat} {c : Cursor} {rest : List Json.Token} (h : c.Leads (t.tokens ++ rest))
    (hrest : Json.Token.Follow rest) (hdepth : depth < maxDepth) :
    ∃ behind, readValue (fuel + 1) depth c = .ok (ofTree t, behind) ∧ behind.Leads rest := by
  rcases ht with rfl | rfl <;>
  · obtain ⟨inside, hinside, hend⟩ := Cursor.exists_next h (Or.inl (isMark_close (by simp)))
    obtain ⟨behind, hbehind, hleads⟩ := Cursor.exists_next hend (spaced_of_follow hrest)
    refine ⟨behind, ?_, hleads⟩
    rw [readValue, token_of_leads h]
    simp only [Token.ofJson, hinside, ok_bind]
    rw [if_neg (by omega), if_pos (mark_of_leads hend rfl), hbehind]
    rfl

mutual

/-- A reader in front of the tokens of a tree reads its value and stands behind them. -/
theorem readValue_tokens (t : Tree) (fuel depth : Nat) {c : Cursor} {rest : List Json.Token}
    (h : c.Leads (t.tokens ++ rest)) (hrest : Json.Token.Follow rest)
    (hfuel : t.tokens.length ≤ fuel) (hdepth : t.depth + depth ≤ maxDepth) :
    ∃ behind, readValue fuel depth c = .ok (ofTree t, behind) ∧ behind.Leads rest := by
  obtain ⟨fuel, rfl⟩ : ∃ n, fuel = n + 1 :=
    Nat.exists_eq_add_one.mpr (Nat.lt_of_lt_of_le (Tree.length_tokens_pos t) hfuel)
  match t with
  | .null | .bool true | .bool false | .number _ | .string _ =>
    obtain ⟨behind, hnext, hleads⟩ := Cursor.exists_next h (spaced_of_follow hrest)
    refine ⟨behind, ?_, hleads⟩
    rw [readValue, token_of_leads h]
    simp only [Token.ofJson, hnext]
    rfl
  | .array [] =>
    rw [Tree.depth] at hdepth
    exact readValue_empty (Or.inl rfl) fuel h hrest (by omega)
  | .array (v :: items) =>
    simp only [Tree.tokens, Tree.depth, Tree.itemsDepth, List.cons_append, List.length_cons,
      List.length_append, List.append_assoc] at h hfuel hdepth
    have hmore := length_moreItems_pos items
    obtain ⟨fuel, rfl⟩ : ∃ n, fuel = n + 1 := Nat.exists_eq_add_one.mpr (by omega)
    have hfollow := follow_moreItems items rest
    obtain ⟨inside, hinside, hfirst⟩ := Cursor.exists_next h (spaced_tokens v hfollow)
    obtain ⟨first, hv, hitems⟩ :=
      readValue_tokens v fuel (depth + 1) hfirst hfollow (by omega) (by omega)
    obtain ⟨last, hread, hlast⟩ := readItems_tokens hv items hitems (by omega) (by omega)
    obtain ⟨behind, hbehind, hleads⟩ := Cursor.exists_behind hlast rfl (spaced_of_follow hrest)
    refine ⟨behind, ?_, hleads⟩
    rw [readValue, token_of_leads h]
    simp only [Token.ofJson, hinside, ok_bind]
    rw [if_neg (by omega), if_neg (token_ne_closeArray hfirst), hread, ok_bind, hbehind]
    rfl
  | .object [] =>
    rw [Tree.depth] at hdepth
    exact readValue_empty (Or.inr rfl) fuel h hrest (by omega)
  | .object ((key, v) :: members) =>
    simp only [Tree.tokens, Tree.depth, Tree.membersDepth, List.cons_append, List.length_cons,
      List.length_append, List.append_assoc] at h hfuel hdepth
    have hmore := length_moreMembers_pos members
    obtain ⟨fuel, rfl⟩ : ∃ n, fuel = n + 1 := Nat.exists_eq_add_one.mpr (by omega)
    have hfollow := follow_moreMembers members rest
    obtain ⟨inside, hinside, hkey⟩ := Cursor.exists_next h (spaced_key key _)
    obtain ⟨start, hstart, hfirst⟩ := exists_start hkey (spaced_tokens v hfollow)
    obtain ⟨first, hv, hmembers⟩ :=
      readValue_tokens v fuel (depth + 1) hfirst hfollow (by omega) (by omega)
    obtain ⟨last, hread, hlast⟩ := readMembers_tokens [] hkey.1 ((hstart _ _).trans hv) members
      hmembers (by omega) (by omega)
    obtain ⟨behind, hbehind, hleads⟩ := Cursor.exists_behind hlast rfl (spaced_of_follow hrest)
    refine ⟨behind, ?_, hleads⟩
    have hopen : inside.token ≠ .mark '\x7d' := by
      rw [token_of_leads hkey]
      exact nofun
    rw [readValue, token_of_leads h]
    simp only [Token.ofJson, hinside, ok_bind]
    rw [if_neg (by omega), if_neg hopen, hread, ok_bind, hbehind]
    rfl

/-- Behind the first item stand the others, with commas between them. -/
theorem readItems_tokens {v : Tree} {c behind : Cursor} {rest : List Json.Token}
    {fuel depth : Nat} (hv : readValue fuel depth c = .ok (ofTree v, behind)) (items : List Tree)
    (h : behind.Leads (Tree.moreItems items ++ rest))
    (hfuel : (Tree.moreItems items).length ≤ fuel + 1)
    (hdepth : Tree.itemsDepth items + depth ≤ maxDepth) :
    ∃ last, readItems (fuel + 1) depth c = .ok (ofTree v :: ofItems items, last) ∧
      last.Leads (.closeArray :: rest) := by
  match items with
  | [] =>
    refine ⟨behind, ?_, h⟩
    have hend : behind.token ≠ .mark ',' := by
      rw [token_of_leads h]
      decide
    rw [readItems, hv, ok_bind]
    simp only [if_neg hend]
    rfl
  | w :: items =>
    simp only [Tree.moreItems, Tree.itemsDepth, List.cons_append, List.append_assoc,
      List.length_cons, List.length_append] at h hfuel hdepth
    have hmore := length_moreItems_pos items
    have hpos := Tree.length_tokens_pos w
    obtain ⟨fuel, rfl⟩ : ∃ n, fuel = n + 1 := Nat.exists_eq_add_one.mpr (by omega)
    have hfollow := follow_moreItems items rest
    obtain ⟨next, hnext, hleads⟩ := Cursor.exists_next h (spaced_tokens w hfollow)
    obtain ⟨after, hw, hitems⟩ :=
      readValue_tokens w fuel depth hleads hfollow (by omega) (by omega)
    obtain ⟨last, hread, hlast⟩ := readItems_tokens hw items hitems (by omega) (by omega)
    refine ⟨last, ?_, hlast⟩
    rw [readItems, hv, ok_bind]
    simp only [if_pos (mark_of_leads h rfl), hnext, ok_bind, hread]
    rfl

/-- Behind the first member stand the others, with commas between them. -/
theorem readMembers_tokens (read : Properties) {key : CodePoints} {v : Tree} {c behind : Cursor}
    {rest : List Json.Token} {fuel depth : Nat} (hkey : c.token = .string key)
    (hv : readMember fuel depth c = .ok (ofTree v, behind)) (members : List (CodePoints × Tree))
    (h : behind.Leads (Tree.moreMembers members ++ rest))
    (hfuel : (Tree.moreMembers members).length ≤ fuel + 1)
    (hdepth : Tree.membersDepth members + depth ≤ maxDepth) :
    ∃ last, readMembers (fuel + 1) depth read c = .ok (ofMembers read ((key, v) :: members), last) ∧
      last.Leads (.closeObject :: rest) := by
  match members with
  | [] =>
    refine ⟨behind, ?_, h⟩
    have hend : behind.token ≠ .mark ',' := by
      rw [token_of_leads h]
      decide
    rw [readMembers_of_readMember read hkey hv, if_neg hend]
    rfl
  | (key', w) :: members =>
    simp only [Tree.moreMembers, Tree.membersDepth, List.cons_append, List.append_assoc,
      List.length_cons, List.length_append] at h hfuel hdepth
    have hmore := length_moreMembers_pos members
    obtain ⟨fuel, rfl⟩ : ∃ n, fuel = n + 1 := Nat.exists_eq_add_one.mpr (by omega)
    have hfollow := follow_moreMembers members rest
    obtain ⟨next, hnext, hkey'⟩ := Cursor.exists_next h (spaced_key key' _)
    obtain ⟨start, hstart, hfirst⟩ := exists_start hkey' (spaced_tokens w hfollow)
    obtain ⟨after, hw, hmembers⟩ :=
      readValue_tokens w fuel depth hfirst hfollow (by omega) (by omega)
    obtain ⟨last, hread, hlast⟩ :=
      readMembers_tokens (Properties.put read key (some (ofTree v))) hkey'.1
        ((hstart _ _).trans hw) members hmembers (by omega) (by omega)
    refine ⟨last, ?_, hlast⟩
    rw [readMembers_of_readMember read hkey hv, if_pos (mark_of_leads h rfl), hnext, ok_bind, hread]
    rfl

end

end Notation

/-- A text that the host reads is read by scripts, as the value of its tree. -/
theorem ScriptValue.parse_of_parse? {text : String} {t : Json.Tree}
    (h : Json.Tree.parse? text = some t) (hdepth : t.depth ≤ Notation.maxDepth) :
    ScriptValue.parse text.toList = .ok (ofTree t) := by
  have hlex := Json.Tree.parse?_eq_some_iff.mp h
  have hlen := Json.Token.length_le_of_lex? hlex
  have hempty : Json.Token.Follow [] := fun t ht => nomatch ht
  have hspaced := Notation.spaced_tokens t hempty
  rw [List.append_nil] at hspaced
  obtain ⟨c, hc, hleads⟩ := Notation.Cursor.exists_of_lex? hlex hspaced
  rw [← List.append_nil t.tokens] at hleads
  have hfuel : t.tokens.length ≤ 2 * text.toList.length + 2 := by omega
  obtain ⟨behind, hvalue, hend⟩ := Notation.readValue_tokens t _ 0 hleads hempty hfuel hdepth
  rw [parse, hc, Notation.ok_bind, hvalue, Notation.ok_bind]
  exact if_pos hend

end HostBridge
