import JsonExpr.Json.Basic
import JsonExpr.Violation

namespace JsonExpr

namespace Pointer

/-- Replaces each occurrence of a character by a text. -/
def replaceChar (c : Char) (replacement text : List Char) : List Char :=
  text.flatMap fun d => if d = c then replacement else [d]

/-- Replaces each occurrence of two characters by one, from left to right. -/
def replacePair (first second replacement : Char) : List Char → List Char
  | c :: d :: rest =>
      if c = first ∧ d = second then replacement :: replacePair first second replacement rest
      else c :: replacePair first second replacement (d :: rest)
  | rest => rest

def unescape (piece : List Char) : String :=
  String.ofList (replacePair '~' '0' '~' (replacePair '~' '1' '/' piece))

/-- The tokens of a path, which is empty or begins with a slash. -/
def decode (path : String) : Option (List String) :=
  match path.toList.splitOn '/' with
  | [] :: pieces => some (pieces.map unescape)
  | _ => none

/-- The index that a token is the decimal numeral of. -/
def index? (token : String) : Option Nat :=
  let index := Nat.ofDigitChars 10 token.toList 0
  if toString index = token then some index else none

theorem replacePair_cons {first second replacement c : Char} (h : c ≠ first) (rest : List Char) :
    replacePair first second replacement (c :: rest) =
      c :: replacePair first second replacement rest := by
  cases rest with
  | nil => rfl
  | cons d rest => simp [replacePair, h]

/-- A token is escaped by replacing its tildes first and its slashes then, so that the tildes which
stand for slashes are not replaced again. -/
theorem toList_escape (token : String) :
    (escape token).toList =
      replaceChar '/' ['~', '1'] (replaceChar '~' ['~', '0'] token.toList) := by
  rw [escape, String.toList_ofList, replaceChar, replaceChar, List.flatMap_assoc]
  congr 1
  funext c
  by_cases htilde : c = '~'
  · simp [escapeChar, htilde]
  by_cases hslash : c = '/'
  · simp [escapeChar, hslash]
  · simp [escapeChar, htilde, hslash]

theorem replacePair_slash (token : List Char) :
    replacePair '~' '1' '/' (token.flatMap escapeChar) = replaceChar '~' ['~', '0'] token := by
  induction token with
  | nil => rfl
  | cons c rest ih =>
      rw [replaceChar, List.flatMap_cons, List.flatMap_cons, ← replaceChar, ← ih]
      by_cases htilde : c = '~'
      · subst htilde
        simp [escapeChar, replacePair, replacePair_cons]
      by_cases hslash : c = '/'
      · subst hslash
        simp [escapeChar, replacePair]
      · simp [escapeChar, htilde, hslash, replacePair_cons]

theorem replacePair_tilde (token : List Char) :
    replacePair '~' '0' '~' (replaceChar '~' ['~', '0'] token) = token := by
  induction token with
  | nil => rfl
  | cons c rest ih =>
      rw [replaceChar, List.flatMap_cons, ← replaceChar]
      by_cases htilde : c = '~'
      · subst htilde
        simp [replacePair, ih]
      · simp [htilde, replacePair_cons, ih]

theorem unescape_escape (token : String) : unescape (escape token).toList = token := by
  rw [unescape, escape, String.toList_ofList, replacePair_slash, replacePair_tilde,
    String.ofList_toList]

theorem slash_notMem_escape (token : String) : '/' ∉ (escape token).toList := by
  rw [escape, String.toList_ofList, List.mem_flatMap]
  rintro ⟨c, _, hc⟩
  by_cases htilde : c = '~'
  · simp [escapeChar, htilde] at hc
  by_cases hslash : c = '/'
  · simp [escapeChar, hslash] at hc
  · simp [escapeChar, htilde, hslash, eq_comm] at hc

theorem toList_extend (base : String) (tokens : List String) :
    (extend base tokens).toList =
      base.toList ++ tokens.flatMap fun token => '/' :: (escape token).toList := by
  induction tokens generalizing base with
  | nil => simp [extend]
  | cons token rest ih =>
      rw [extend, List.foldl_cons, ← extend, ih, push]
      simp

theorem extend_eq_append (base : String) (tokens : List String) :
    extend base tokens = base ++ extend "" tokens := by
  rw [← String.toList_inj, String.toList_append, toList_extend, toList_extend]
  simp

theorem intercalate_slash (first : List Char) (pieces : List (List Char)) :
    ['/'].intercalate (first :: pieces) = first ++ pieces.flatMap fun piece => '/' :: piece := by
  induction pieces generalizing first with
  | nil => simp
  | cons piece rest ih =>
      rw [List.intercalate_cons_cons, ih, List.flatMap_cons]
      simp

theorem decode_extend (tokens : List String) : decode (extend "" tokens) = some tokens := by
  have hpath : (extend "" tokens).toList =
      ['/'].intercalate ([] :: tokens.map fun token => (escape token).toList) := by
    rw [toList_extend, intercalate_slash, List.flatMap_map]
    simp
  have hsplit : (extend "" tokens).toList.splitOn '/' =
      [] :: tokens.map fun token => (escape token).toList := by
    rw [hpath]
    apply List.splitOn_intercalate
    · simp [slash_notMem_escape]
    · simp
  simp only [decode, hsplit, List.map_map]
  congr 1
  exact List.map_id'' unescape_escape tokens

/-- Each token of a path is written after a slash, escaped by two replacements. Reading the path
back gives the tokens, and so paths with different tokens after the same start are different. -/
theorem path_determines_tokens :
    (∀ path token, (push path token).toList =
      path.toList ++ '/' :: replaceChar '/' ['~', '1'] (replaceChar '~' ['~', '0'] token.toList)) ∧
      (∀ tokens, decode (extend "" tokens) = some tokens) ∧
      ∀ base tokens others, extend base tokens = extend base others ↔ tokens = others := by
  refine ⟨fun path token => ?_, decode_extend, fun base tokens others => ⟨fun h => ?_, ?_⟩⟩
  · rw [push, String.toList_append, String.toList_append, toList_escape]
    simp
  · rw [extend_eq_append, extend_eq_append base others, String.append_right_inj] at h
    apply Option.some.inj
    rw [← decode_extend, h, decode_extend]
  · rintro rfl
    rfl

theorem index?_toString (index : Nat) : index? (toString index) = some index := by
  have hdigits : Nat.ofDigitChars 10 (toString index).toList 0 = index := by
    rw [Nat.toString_eq_repr, Nat.repr_eq_ofList_toDigits, String.toList_ofList,
      Nat.ofDigitChars_toDigits (by decide) (by decide)]
  simp only [index?, hdigits, if_true]

end Pointer

namespace Json

/-- The part of a value that a token names. -/
def part? : Json → String → Option Json
  | .scalar _, _ => none
  | .arr items, token => (Pointer.index? token).bind fun index => items[index]?
  | .obj members, token => Bindings.get? members token

/-- The value that tokens lead to, one after another. -/
def at? (value : Json) : List String → Option Json
  | [] => some value
  | token :: rest => (value.part? token).bind fun part => part.at? rest

theorem at?_cons {value part : Json} {token : String} (h : value.part? token = some part)
    (rest : List String) : value.at? (token :: rest) = part.at? rest := by
  rw [at?, h, Option.bind_some]

end Json

end JsonExpr
