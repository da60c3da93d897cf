/-
Paths in their normal form.

A path is a row of segments with slashes in front of them. A segment of one dot names
the place where it stands, and one of two dots the place above; both are resolved, and
a dot may also come as an escape. A place that is named like a drive is the top of its
tree: nothing leads above it. In an address of a file the first segment may name a
drive with a bar instead of a colon.
-/
import KeyedLocks.Text.Cut
import KeyedLocks.Text.Percent

set_option autoImplicit false

namespace KeyedLocks.Address.Path

open KeyedLocks.Text

/-! ## Segments -/

/-- The number of dots that a segment consists of, if it consists of dots. -/
def dots? : List Char → Option Nat
  | [] => some 0
  | '.' :: rest => (dots? rest).map (· + 1)
  | '%' :: '2' :: 'e' :: rest => (dots? rest).map (· + 1)
  | '%' :: '2' :: 'E' :: rest => (dots? rest).map (· + 1)
  | _ => none

/-- Whether a segment is named like a drive: a letter with a colon or a bar. -/
def isDrive : List Char → Bool
  | [letter, sign] => letter.isAlpha && (sign == ':' || sign == '|')
  | _ => false

/-- The segments above, where the last segment comes first. -/
def above : List (List Char) → List (List Char)
  | [] => []
  | last :: rest => if isDrive last then last :: rest else rest

/-- A segment as it is kept behind others. A drive at the top of a file's path gets its
colon. -/
def settle (isFile : Bool) (done : List (List Char)) (segment : List Char) : List Char :=
  match segment with
  | letter :: _ =>
    if isFile && done.isEmpty && isDrive segment then [letter, ':'] else segment
  | [] => segment

/-- Segments without those that only name a place relative to others. What is done
already comes with the last segment first. Behind dots at the end stands an empty
segment, so that the path still ends with a slash. -/
def resolve (isFile : Bool) (done : List (List Char)) : List (List Char) → List (List Char)
  | [] => done.reverse
  | [last] =>
    match dots? last with
    -- Dots at the end name a place, and a place ends with a slash.
    | some 1 => ([] :: done).reverse
    | some 2 => ([] :: above done).reverse
    | _ => (settle isFile done last :: done).reverse
  | segment :: next :: more =>
    match dots? segment with
    | some 1 => resolve isFile done (next :: more)
    | some 2 => resolve isFile (above done) (next :: more)
    | _ => resolve isFile (settle isFile done segment :: done) (next :: more)

/-! ## Paths -/

/-- What a path escapes. -/
def reserved : List Char := " \"#<>?`\x7b\x7d".toList

/-- Segments in writing. -/
def text (segments : List (List Char)) : List Char :=
  '/' :: joinWith '/' (segments.map (escape reserved))

/-- The path of an address that is no file. -/
def normal (separates : Char → Bool) (cs : List Char) : List Char :=
  text (resolve false [] (cutAt separates cs))

/-! ## What resolving leaves -/

/-- A segment that is no drive is above nothing. -/
@[simp] theorem above_nil : above [] = [] := rfl

/-- **Segments without dots are left as they are.** -/
theorem resolve_of_no_dots (done segments : List (List Char))
    (h : ∀ s ∈ segments, dots? s ≠ some 1 ∧ dots? s ≠ some 2) :
    resolve false done segments = done.reverse ++ segments := by
  have kept (done : List (List Char)) (s : List Char) : settle false done s = s := by
    cases s <;> rfl
  induction segments generalizing done with
  | nil => simp [resolve]
  | cons s rest ih =>
    have plain := h s (by simp)
    cases rest with
    | nil =>
      unfold resolve
      split
      · next one => exact absurd one plain.1
      · next two => exact absurd two plain.2
      · simp [kept]
    | cons next more =>
      unfold resolve
      split
      · next one => exact absurd one plain.1
      · next two => exact absurd two plain.2
      · rw [kept, ih _ (fun t ht => h t (List.mem_cons_of_mem s ht))]
        simp

end KeyedLocks.Address.Path
