import AsmScope.Text.Blank
import AsmScope.Text.Digit
import AsmScope.Text.Word

/-! Patterns over text and the matcher. A cursor is a place in a text: the character before it and the text
after it. `Matches p c d` says that the pattern can lead from one cursor to another; `run` searches for a way
to a cursor that a test accepts. `run_iff` says that the search finds a way exactly if there is one. -/

namespace AsmScope

inductive CharClass where
  | range (low high : Char)
  | word
  | digit
  | blank
  | except (classes : List CharClass)
  | any (classes : List CharClass)
  deriving Repr

namespace CharClass
open AsmScope.Text

mutual
def has (c : Char) : CharClass → Bool
  | .range low high => low ≤ c && c ≤ high
  | .word => isWord c
  | .digit => isDigit c
  | .blank => isBlank c
  | .except classes => !hasAny c classes
  | .any classes => hasAny c classes

def hasAny (c : Char) : List CharClass → Bool
  | [] => false
  | k :: rest => has c k || hasAny c rest
end

def single (c : Char) : CharClass := .range c c

/-- A point accepts all but a line feed. -/
def point : CharClass := .except [single '\n']

end CharClass

inductive Pattern where
  | empty
  | never
  | char (accepts : CharClass)
  | seq (first second : Pattern)
  | alt (first second : Pattern)
  | star (body : Pattern)
  | opening
  | closing
  | boundary (wanted : Bool)
  deriving Repr

structure Cursor where
  before : Option Char
  rest : List Char
  deriving DecidableEq, Repr

namespace Cursor
open AsmScope.Text

def start (s : List Char) : Cursor := ⟨none, s⟩

/-- The end of a text is also seen before its final line feed. -/
def atEnd (c : Cursor) : Bool := c.rest == [] || c.rest == ['\n']

def atBoundary (c : Cursor) : Bool :=
  (c.before.map isWord).getD false != (c.rest.head?.map isWord).getD false

end Cursor

namespace Pattern

inductive Matches : Pattern → Cursor → Cursor → Prop where
  | empty {c} : Matches .empty c c
  | char {k b x r} : k.has x = true → Matches (.char k) ⟨b, x :: r⟩ ⟨some x, r⟩
  | seq {p q c d e} : Matches p c d → Matches q d e → Matches (.seq p q) c e
  | left {p q c d} : Matches p c d → Matches (.alt p q) c d
  | right {p q c d} : Matches q c d → Matches (.alt p q) c d
  | done {p c} : Matches (.star p) c c
  | more {p c d e} : d.rest.length < c.rest.length → Matches p c d → Matches (.star p) d e →
      Matches (.star p) c e
  | opening {r} : Matches .opening ⟨none, r⟩ ⟨none, r⟩
  | closing {c} : c.atEnd = true → Matches .closing c c
  | boundary {w c} : c.atBoundary = w → Matches (.boundary w) c c

/-- Ways of at most the given number of rounds, each of which takes something. -/
def repeats (round : (Cursor → Bool) → Cursor → Bool) : Nat → (Cursor → Bool) → Cursor → Bool
  | 0, test, c => test c
  | n + 1, test, c =>
    test c || round (fun d => d.rest.length < c.rest.length && repeats round n test d) c

def run : Pattern → (Cursor → Bool) → Cursor → Bool
  | .empty, test, c => test c
  | .never, _, _ => false
  | .char k, test, c =>
    match c.rest with
    | [] => false
    | x :: r => k.has x && test ⟨some x, r⟩
  | .seq p q, test, c => run p (run q test) c
  | .alt p q, test, c => run p test c || run q test c
  | .star p, test, c => repeats (run p) c.rest.length test c
  | .opening, test, c => c.before.isNone && test c
  | .closing, test, c => c.atEnd && test c
  | .boundary wanted, test, c => c.atBoundary == wanted && test c

def matchesStart (p : Pattern) (s : List Char) : Bool := run p (fun _ => true) (Cursor.start s)

def foundFrom (p : Pattern) : Option Char → List Char → Bool
  | before, [] => run p (fun _ => true) ⟨before, []⟩
  | before, x :: r => run p (fun _ => true) ⟨before, x :: r⟩ || foundFrom p (some x) r

def occursIn (p : Pattern) (s : List Char) : Bool := foundFrom p none s

theorem repeats_iff {p : Pattern}
    (ih : ∀ test c, run p test c = true ↔ ∃ d, Matches p c d ∧ test d = true)
    (n : Nat) (test : Cursor → Bool) (c : Cursor) (hn : c.rest.length ≤ n) :
    repeats (run p) n test c = true ↔ ∃ d, Matches (.star p) c d ∧ test d = true := by
  induction n generalizing c with
  | zero =>
    constructor
    · intro h
      exact ⟨c, .done, h⟩
    · rintro ⟨d, hd, ht⟩
      cases hd with
      | done => exact ht
      | more hl _ _ => omega
  | succ n step =>
    simp only [repeats, Bool.or_eq_true, ih, Bool.and_eq_true, decide_eq_true_eq]
    constructor
    · rintro (ht | ⟨d, hp, hl, hr⟩)
      · exact ⟨c, .done, ht⟩
      · obtain ⟨e, he, ht⟩ := (step d (by omega)).1 hr
        exact ⟨e, .more hl hp he, ht⟩
    · rintro ⟨e, he, ht⟩
      cases he with
      | done => exact .inl ht
      | more hl hp hs => exact .inr ⟨_, hp, hl, (step _ (by omega)).2 ⟨e, hs, ht⟩⟩

theorem run_iff (p : Pattern) (test : Cursor → Bool) (c : Cursor) :
    run p test c = true ↔ ∃ d, Matches p c d ∧ test d = true := by
  induction p generalizing test c with
  | empty => exact ⟨fun h => ⟨c, .empty, h⟩, fun ⟨_, hd, ht⟩ => by cases hd; exact ht⟩
  | never => exact ⟨fun h => by simp [run] at h, fun ⟨_, hd, _⟩ => by cases hd⟩
  | char k =>
    obtain ⟨b, r⟩ := c
    cases r with
    | nil => exact ⟨fun h => by simp [run] at h, fun ⟨_, hd, _⟩ => by cases hd⟩
    | cons x r =>
      simp only [run, Bool.and_eq_true]
      exact ⟨fun ⟨hk, ht⟩ => ⟨_, .char hk, ht⟩, fun ⟨_, hd, ht⟩ => by cases hd with | char hk => exact ⟨hk, ht⟩⟩
  | seq p q hp hq =>
    simp only [run, hp, hq]
    constructor
    · rintro ⟨d, hd, e, he, ht⟩
      exact ⟨e, .seq hd he, ht⟩
    · rintro ⟨e, he, ht⟩
      cases he with
      | seq h1 h2 => exact ⟨_, h1, e, h2, ht⟩
  | alt p q hp hq =>
    simp only [run, Bool.or_eq_true, hp, hq]
    constructor
    · rintro (⟨d, hd, ht⟩ | ⟨d, hd, ht⟩)
      · exact ⟨d, .left hd, ht⟩
      · exact ⟨d, .right hd, ht⟩
    · rintro ⟨d, hd, ht⟩
      cases hd with
      | left h => exact .inl ⟨d, h, ht⟩
      | right h => exact .inr ⟨d, h, ht⟩
  | star p hp => exact repeats_iff hp _ test c (Nat.le_refl _)
  | opening =>
    obtain ⟨b, r⟩ := c
    cases b with
    | none =>
      simp only [run, Option.isNone_none, Bool.true_and]
      exact ⟨fun h => ⟨_, .opening, h⟩, fun ⟨_, hd, ht⟩ => by cases hd; exact ht⟩
    | some x => exact ⟨fun h => by simp [run] at h, fun ⟨_, hd, _⟩ => by cases hd⟩
  | closing =>
    simp only [run, Bool.and_eq_true]
    exact ⟨fun ⟨he, ht⟩ => ⟨c, .closing he, ht⟩, fun ⟨_, hd, ht⟩ => by cases hd with | closing he => exact ⟨he, ht⟩⟩
  | boundary wanted =>
    simp only [run, Bool.and_eq_true, beq_iff_eq]
    exact ⟨fun ⟨he, ht⟩ => ⟨c, .boundary he, ht⟩, fun ⟨_, hd, ht⟩ => by cases hd with | boundary he => exact ⟨he, ht⟩⟩

theorem matchesStart_iff {p : Pattern} {s : List Char} :
    p.matchesStart s = true ↔ ∃ d, Matches p (Cursor.start s) d := by
  simp [matchesStart, run_iff]

end Pattern
end AsmScope
