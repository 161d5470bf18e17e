import TracePlayer.Pane.SourceToken

/-
  This file proves that the tokens of a line of a program are
  those that a reader takes off its front one by one, and that
  nothing is lost. A scan is at every character inside a token
  of which it has read a part; the part tells the token once
  the scan gets to its end.

  Main declarations:
    * `SourceToken.EndsEscaping`, `SourceToken.Unclosed`
    * `SourceToken.IsFirst`, `SourceToken.Lexes`
    * `SourceToken.Reads`, `SourceToken.scansRest`
    * `SourceToken.Lexes.unique`
    * `SourceToken.tokens_read_from_left`
-/

namespace TracePlayer

namespace SourceToken

------------------------------------------------------------
-- Strings
------------------------------------------------------------

/-
  Whether a text ends in a backslash that escapes what comes
  next: backslashes in a row escape each other in pairs.
-/
def EndsEscaping (text : List Char) : Prop :=
  (text.reverse.takeWhile (· == '\\')).length % 2 = 1

theorem not_endsEscaping_nil : ¬ EndsEscaping [] := by
  simp [EndsEscaping]

theorem endsEscaping_concat
    (text : List Char)
    (c : Char) :
    EndsEscaping (text ++ [c]) ↔
      c = '\\' ∧ ¬ EndsEscaping text := by
  rw [EndsEscaping, EndsEscaping, List.reverse_append,
    List.reverse_singleton, List.singleton_append,
    List.takeWhile_cons]
  by_cases hBackslash : c = '\\'
  · simp only [hBackslash, beq_self_eq_true, ↓reduceIte,
      List.length_cons, true_and]
    omega
  · simp [hBackslash]

/- Whether every quote in the body of a string is escaped. -/
def Unclosed
    (quote : Char)
    (body : List Char) : Prop :=
  ∀ before after,
    body = before ++ quote :: after → EndsEscaping before

theorem Unclosed.nil (quote : Char) : Unclosed quote [] :=
  fun before after hBody => by simp at hBody

theorem Unclosed.concat
    {quote c : Char}
    {body : List Char}
    (hBody : Unclosed quote body)
    (hQuote : c = quote → EndsEscaping body) :
    Unclosed quote (body ++ [c]) := by
  intro before after hSame
  rcases List.eq_nil_or_concat after with
    rfl | ⟨inner, last, rfl⟩
  case inl =>
    rcases List.append_inj' hSame rfl with ⟨rfl, hLast⟩
    exact hQuote (List.head_eq_of_cons_eq hLast)
  case inr =>
    have hSame' :
        body ++ [c] = (before ++ quote :: inner) ++ [last] := by
      simpa using hSame
    exact hBody before inner (List.append_inj' hSame' rfl).1

/- No string goes on behind a quote that is not escaped. -/
theorem Unclosed.ne_closed
    {quote : Char}
    {longer body : List Char}
    (hLonger : Unclosed quote longer)
    (hEnd : ¬ EndsEscaping body)
    (rest : List Char) :
    longer ≠ body ++ quote :: rest :=
  fun hSame => hEnd (hLonger body rest hSame)

/- A body does not go on behind the quote that closes it. -/
theorem Unclosed.ends
    {quote : Char}
    {body more rest after : List Char}
    (hLonger : Unclosed quote (body ++ more))
    (hEnd : ¬ EndsEscaping body)
    (hRest : quote :: rest = more ++ after) :
    more = [] := by
  cases more with
  | nil => rfl
  | cons c more =>
      rw [← List.head_eq_of_cons_eq hRest] at hLonger
      exact absurd rfl (hLonger.ne_closed hEnd more)

/- A string closes at one quote only. -/
theorem Unclosed.eq_of_closed
    {quote : Char}
    {body other rest otherRest : List Char}
    (hBody : Unclosed quote body)
    (hOther : Unclosed quote other)
    (hEnd : ¬ EndsEscaping body)
    (hOtherEnd : ¬ EndsEscaping other)
    (hSame :
      body ++ quote :: rest = other ++ quote :: otherRest) :
    body = other ∧ rest = otherRest := by
  rcases List.append_eq_append_iff.mp hSame with
    ⟨more, rfl, hRest⟩ | ⟨more, rfl, hRest⟩
  · have hNone := hOther.ends hEnd hRest
    subst hNone
    exact ⟨(List.append_nil body).symm, (List.cons.inj hRest).2⟩
  · have hNone := hBody.ends hOtherEnd hRest
    subst hNone
    exact ⟨List.append_nil other, (List.cons.inj hRest).2.symm⟩

------------------------------------------------------------
-- Reading from the Left
------------------------------------------------------------

/-
  Whether a token is the first one of a text in which it is
  followed by `rest`: a hash mark starts a comment up to the
  end, a quote a string up to the next one that no backslash
  escapes, or else up to the end; a word goes on as long as it
  can, and any other character stands alone.
-/
inductive IsFirst : SourceToken → List Char → Prop where
| comment (body : List Char) :
    IsFirst (comment ('#' :: body)) []
| closed
    {quote : Char}
    {body : List Char}
    (rest : List Char)
    (hQuote : isQuote quote = true)
    (hBody : Unclosed quote body)
    (hEnd : ¬ EndsEscaping body) :
    IsFirst (quoted (quote :: body ++ [quote])) rest
| unended
    {quote : Char}
    {body : List Char}
    (hQuote : isQuote quote = true)
    (hBody : Unclosed quote body) :
    IsFirst (quoted (quote :: body)) []
| word
    {text rest : List Char}
    (hText : text ≠ [])
    (hWord : ∀ c ∈ text, isWordChar c = true)
    (hRest : ∀ c ∈ rest.head?, isWordChar c = false) :
    IsFirst (word text) rest
| mark
    {c : Char}
    (rest : List Char)
    (hHash : c ≠ '#')
    (hQuote : isQuote c = false)
    (hWord : isWordChar c = false) :
    IsFirst (mark c) rest

/- The tokens of a text, read from the left. -/
inductive Lexes : List Char → List SourceToken → Prop where
| nil : Lexes [] []
| cons
    {token : SourceToken}
    {rest : List Char}
    {tokens : List SourceToken}
    (hFirst : IsFirst token rest)
    (hRest : Lexes rest tokens) :
    Lexes (token.text ++ rest) (token :: tokens)

namespace Lexes

/- A text that is one token. -/
theorem single
    {token : SourceToken}
    (hFirst : IsFirst token []) :
    Lexes token.text [token] := by
  simpa using Lexes.cons hFirst .nil

/- The texts of the tokens make up the whole text. -/
theorem flatMap_text
    {text : List Char}
    {tokens : List SourceToken}
    (hLexes : Lexes text tokens) :
    tokens.flatMap SourceToken.text = text := by
  induction hLexes with
  | nil => rfl
  | cons hFirst hRest ih => rw [List.flatMap_cons, ih]

end Lexes

theorem IsFirst.text_ne_nil
    {token : SourceToken}
    {rest : List Char}
    (hFirst : IsFirst token rest) :
    token.text ≠ [] := by
  cases hFirst with
  | word hText hWord hRest => exact hText
  | _ => simp [text]

------------------------------------------------------------
-- One Reading
------------------------------------------------------------

/- The kinds of tokens. -/
inductive Kind where
| comment
| quoted
| word
| mark
deriving DecidableEq, Repr

def kind : SourceToken → Kind
| comment _ => .comment
| quoted _ => .quoted
| word _ => .word
| mark _ => .mark

/- The kind of the token that starts with a character. -/
def kindAt (c : Char) : Kind :=
  if c = '#' then .comment
  else if isQuote c then .quoted
  else if isWordChar c then .word
  else .mark

theorem isWordChar_hash : isWordChar '#' = false := by
  decide

theorem isWordChar_of_isQuote
    {c : Char}
    (hQuote : isQuote c = true) :
    isWordChar c = false := by
  simp only [isQuote, Bool.or_eq_true, decide_eq_true_eq]
    at hQuote
  rcases hQuote with rfl | rfl <;> decide

/- The first character of a text tells the first kind. -/
theorem IsFirst.kind_eq
    {token : SourceToken}
    {rest : List Char}
    (hFirst : IsFirst token rest) :
    (token.text ++ rest).head?.map kindAt =
      some token.kind := by
  have hQuoted :
      ∀ {quote : Char}, isQuote quote = true →
        kindAt quote = .quoted := by
    intro quote hQuote
    rw [kindAt, if_neg, if_pos hQuote]
    rintro rfl
    exact absurd hQuote (by decide)
  cases hFirst with
  | comment body => rfl
  | closed rest hQuote => exact congrArg some (hQuoted hQuote)
  | unended hQuote => exact congrArg some (hQuoted hQuote)
  | @word word _ hText hWord =>
      cases word with
      | nil => exact absurd rfl hText
      | cons c more =>
          have hFirst := hWord c List.mem_cons_self
          refine congrArg some ?_
          rw [kindAt, if_neg, if_neg, if_pos hFirst]
          · rfl
          · intro hQuote
            rw [isWordChar_of_isQuote hQuote] at hFirst
            cases hFirst
          · rintro rfl
            rw [isWordChar_hash] at hFirst
            cases hFirst
  | mark rest hHash hQuote hWord =>
      refine congrArg some ?_
      rw [kindAt, if_neg hHash, hQuote, hWord]
      rfl

/- No word goes on behind a place where a word cannot. -/
theorem word_ends
    {text more after : List Char}
    (hWord : ∀ c ∈ text ++ more, isWordChar c = true)
    (hEnd :
      ∀ c ∈ (more ++ after).head?, isWordChar c = false) :
    more = [] := by
  cases more with
  | nil => rfl
  | cons c more =>
      have hTrue := hWord c (by simp)
      rw [hEnd c rfl] at hTrue
      cases hTrue

/- A text has only one first word. -/
theorem word_unique
    {text other rest otherRest : List Char}
    (hWord : ∀ c ∈ text, isWordChar c = true)
    (hOther : ∀ c ∈ other, isWordChar c = true)
    (hRest : ∀ c ∈ rest.head?, isWordChar c = false)
    (hOtherRest : ∀ c ∈ otherRest.head?, isWordChar c = false)
    (hSame : text ++ rest = other ++ otherRest) :
    text = other ∧ rest = otherRest := by
  rcases List.append_eq_append_iff.mp hSame with
    ⟨more, rfl, rfl⟩ | ⟨more, rfl, rfl⟩
  · have hNone := word_ends hOther hRest
    subst hNone
    exact ⟨(List.append_nil text).symm, rfl⟩
  · have hNone := word_ends hWord hOtherRest
    subst hNone
    exact ⟨List.append_nil other, rfl⟩

/- A text has only one first token. -/
theorem IsFirst.unique
    {token other : SourceToken}
    {rest otherRest : List Char}
    (hFirst : IsFirst token rest)
    (hOther : IsFirst other otherRest)
    (hSame : token.text ++ rest = other.text ++ otherRest) :
    token = other ∧ rest = otherRest := by
  have hKind : token.kind = other.kind := by
    rw [← Option.some_inj, ← hFirst.kind_eq, hSame,
      hOther.kind_eq]
  cases hFirst with
  | comment body =>
      cases hOther with
      | comment => simpa [text] using hSame
      | _ => cases hKind
  | closed rest hQuote hBody hEnd =>
      cases hOther with
      | closed _ _ hOtherBody hOtherEnd =>
          simp only [text, List.cons_append, List.append_assoc,
            List.nil_append, List.cons.injEq] at hSame
          rcases hSame with ⟨rfl, hSame⟩
          rcases hBody.eq_of_closed hOtherBody hEnd hOtherEnd hSame
            with ⟨rfl, rfl⟩
          exact ⟨rfl, rfl⟩
      | unended _ hOtherBody =>
          simp only [text, List.cons_append, List.append_assoc,
            List.nil_append, List.append_nil, List.cons.injEq]
            at hSame
          rcases hSame with ⟨rfl, hSame⟩
          exact absurd hSame.symm (hOtherBody.ne_closed hEnd rest)
      | _ => cases hKind
  | unended hQuote hBody =>
      cases hOther with
      | closed otherRest _ hOtherBody hOtherEnd =>
          simp only [text, List.cons_append, List.append_assoc,
            List.nil_append, List.append_nil, List.cons.injEq]
            at hSame
          rcases hSame with ⟨rfl, hSame⟩
          exact absurd hSame (hBody.ne_closed hOtherEnd otherRest)
      | unended => simpa [text] using hSame
      | _ => cases hKind
  | word hText hWord hRest =>
      cases hOther with
      | word hOtherText hOtherWord hOtherRest =>
          rcases word_unique hWord hOtherWord hRest hOtherRest
              hSame with ⟨rfl, rfl⟩
          exact ⟨rfl, rfl⟩
      | _ => cases hKind
  | mark rest =>
      cases hOther with
      | mark => simpa [text] using hSame
      | _ => cases hKind

/- A text has only one list of tokens. -/
theorem Lexes.unique
    {text : List Char}
    {tokens others : List SourceToken}
    (hLexes : Lexes text tokens)
    (hOthers : Lexes text others) :
    tokens = others := by
  induction hLexes generalizing others with
  | nil =>
      generalize hText : ([] : List Char) = text at hOthers
      cases hOthers with
      | nil => rfl
      | cons hOther _ =>
          have hNone := (List.append_eq_nil_iff.mp hText.symm).1
          exact absurd hNone hOther.text_ne_nil
  | @cons token rest tokens hFirst _ ih =>
      generalize hText : token.text ++ rest = text at hOthers
      cases hOthers with
      | nil =>
          have hNone := (List.append_eq_nil_iff.mp hText).1
          exact absurd hNone hFirst.text_ne_nil
      | cons hOther hLater =>
          rcases hFirst.unique hOther hText with ⟨rfl, rfl⟩
          rw [ih hLater]

/- The last tokens of a text are those of its end. -/
theorem Lexes.end_of_append
    {text : List Char}
    {before tokens : List SourceToken}
    (hLexes : Lexes text (before ++ tokens)) :
    ∃ rest, Lexes rest tokens := by
  induction before generalizing text with
  | nil => exact ⟨text, hLexes⟩
  | cons token before ih =>
      cases hLexes with
      | cons hFirst hRest => exact ih hRest

/- Nothing follows a comment. -/
theorem Lexes.comment_last
    {text body : List Char}
    {before after : List SourceToken}
    (hLexes : Lexes text (before ++ .comment body :: after)) :
    after = [] := by
  rcases hLexes.end_of_append with ⟨rest, hRest⟩
  cases hRest with
  | cons hFirst hAfter =>
      cases hFirst
      exact hAfter.unique .nil

/- No word follows a word. -/
theorem Lexes.words_apart
    {text word next : List Char}
    {before after : List SourceToken}
    (hLexes :
      Lexes text (before ++ .word word :: .word next :: after)) :
    False := by
  rcases hLexes.end_of_append with ⟨rest, hRest⟩
  cases hRest with
  | cons hFirst hAfter =>
      cases hAfter with
      | cons hNext _ =>
          cases hFirst with
          | word _ _ hEnd =>
              cases hNext with
              | word hNextText hNextWord _ =>
                  have hAll :
                      ∀ c ∈ [] ++ next, isWordChar c = true :=
                    hNextWord
                  exact hNextText (word_ends hAll hEnd)

------------------------------------------------------------
-- Parts of Tokens
------------------------------------------------------------

/- What a scan has read of the token that it is in. -/
inductive Reads : Mode → List Char → Prop where
| between : Reads (.code none) []
| word
    {start : Nat}
    {text : List Char}
    (hText : text ≠ [])
    (hWord : ∀ c ∈ text, isWordChar c = true) :
    Reads (.code (some start)) text
| quoted
    {quote : Char}
    {start : Nat}
    {body : List Char}
    (hQuote : isQuote quote = true)
    (hBody : Unclosed quote body)
    (hEnd : ¬ EndsEscaping body) :
    Reads (.quoted quote start) (quote :: body)
| escaped
    {quote : Char}
    {start : Nat}
    {body : List Char}
    (hQuote : isQuote quote = true)
    (hBody : Unclosed quote body)
    (hEnd : EndsEscaping body) :
    Reads (.escaped quote start) (quote :: body)

/- The word that was read up to an offset is the one there. -/
theorem wordTo?_of_reads
    {line earlier text rest : List Char}
    {start : Option Nat}
    (hLine : line = earlier ++ text ++ rest)
    (hReads : Reads (.code start) text)
    (hStart : ∀ offset ∈ start, offset = byteLength earlier) :
    wordTo? line start (byteLength (earlier ++ text)) =
      some (if text = [] then [] else [word text]) := by
  cases hReads with
  | between => rfl
  | word hText hWord =>
      rw [hLine, hStart _ rfl, wordTo?, slice?_middle]
      rfl

/- A word that was read is a token if nothing can extend it. -/
theorem lexes_of_reads
    {start : Option Nat}
    {text rest : List Char}
    {tokens : List SourceToken}
    (hReads : Reads (.code start) text)
    (hHead : ∀ c ∈ rest.head?, isWordChar c = false)
    (hRest : Lexes rest tokens) :
    Lexes (text ++ rest)
      ((if text = [] then [] else [word text]) ++ tokens) := by
  cases hReads with
  | between => exact hRest
  | word hText hWord =>
      rw [if_neg hText]
      exact .cons (.word hText hWord hHead) hRest

------------------------------------------------------------
-- Scans
------------------------------------------------------------

/- The part of a word is extended by a further character. -/
theorem Reads.extend_word
    {start : Option Nat}
    {text : List Char}
    {c : Char}
    (hReads : Reads (.code start) text)
    (hWord : isWordChar c = true)
    (offset : Nat) :
    Reads (.code (some offset)) (text ++ [c]) := by
  refine .word (by simp) fun d hMem => ?_
  rcases List.mem_append.mp hMem with hEarlier | hLast
  · cases hReads with
    | between => cases hEarlier
    | word hText hAll => exact hAll d hEarlier
  · rwa [List.mem_singleton.mp hLast]

/- A backslash in a string escapes what follows it. -/
theorem Reads.escape
    {quote : Char}
    {start : Nat}
    {text : List Char}
    (hReads : Reads (.quoted quote start) text) :
    Reads (.escaped quote start) (text ++ ['\\']) := by
  cases hReads with
  | @quoted _ _ body hQuote hBody hEnd =>
      refine .escaped hQuote (hBody.concat ?_) ?_
      · rintro rfl
        exact absurd hQuote (by decide)
      · exact (endsEscaping_concat body '\\').mpr ⟨rfl, hEnd⟩

/- A string goes on through what neither ends nor escapes. -/
theorem Reads.extend_quoted
    {quote c : Char}
    {start : Nat}
    {text : List Char}
    (hReads : Reads (.quoted quote start) text)
    (hBackslash : c ≠ '\\')
    (hOther : c ≠ quote) :
    Reads (.quoted quote start) (text ++ [c]) := by
  cases hReads with
  | @quoted _ _ body hQuote hBody hEnd =>
      refine .quoted hQuote (hBody.concat fun hSame => ?_) ?_
      · exact absurd hSame hOther
      · intro hEscaping
        exact hBackslash
          ((endsEscaping_concat body c).mp hEscaping).1

/- A string goes on through what is escaped. -/
theorem Reads.extend_escaped
    {quote : Char}
    {start : Nat}
    {text : List Char}
    (hReads : Reads (.escaped quote start) text)
    (c : Char) :
    Reads (.quoted quote start) (text ++ [c]) := by
  cases hReads with
  | @escaped _ _ body hQuote hBody hEnd =>
      refine .quoted hQuote (hBody.concat fun _ => hEnd) ?_
      intro hEscaping
      exact ((endsEscaping_concat body c).mp hEscaping).2 hEnd

/- The part of a string that a text ends in is its last token. -/
theorem Reads.lexes_unended
    {mode : Mode}
    {text : List Char}
    (hReads : Reads mode text)
    (hMode : ∀ start, mode ≠ .code start) :
    Lexes text [.quoted text] := by
  cases hReads with
  | between => exact absurd rfl (hMode _)
  | word => exact absurd rfl (hMode _)
  | quoted hQuote hBody hEnd | escaped hQuote hBody hEnd =>
      exact .single (.unended hQuote hBody)

/-
  Whether scans that have the rest of a line before them give
  tokens, whatever mode they are in: those of the part that
  they have read of a token, and of the rest.
-/
def ScansRest (line rest : List Char) : Prop :=
  ∀ {earlier text : List Char} {mode : Mode},
    line = earlier ++ text ++ rest →
      Reads mode text →
        (∀ start ∈ mode.start?, start = byteLength earlier) →
          ∃ tokens,
            scan line mode
                (offsetsFrom (byteLength (earlier ++ text)) rest) =
              some tokens ∧
            Lexes (text ++ rest) tokens

/- At the end of a line, the part that was read is a token. -/
theorem scansRest_nil (line : List Char) :
    ScansRest line [] := by
  intro earlier text mode hLine hReads hStart
  have hStop :
      byteLength line = byteLength (earlier ++ text) := by
    rw [hLine, List.append_nil]
  cases mode with
  | code start =>
      refine ⟨_, ?_, lexes_of_reads hReads (by simp) .nil⟩
      rw [offsetsFrom, scan, hStop,
        wordTo?_of_reads hLine hReads hStart, List.append_nil]
  | quoted quote start | escaped quote start =>
      refine ⟨[.quoted text], ?_, ?_⟩
      · rw [offsetsFrom, scan, hStop, hStart start rfl, hLine,
          slice?_middle]
        rfl
      · rw [List.append_nil]
        exact hReads.lexes_unended (by simp)

section Character

variable {line earlier text rest : List Char} {c : Char}

/-
  Behind a character, a scan goes on with the rest; what it
  has read then may begin anywhere up to there.
-/
theorem ScansRest.behind
    (hRest : ScansRest line rest)
    (hLine : line = earlier ++ text ++ c :: rest)
    {before part : List Char}
    {mode : Mode}
    (hSame : before ++ part = earlier ++ text ++ [c])
    (hReads : Reads mode part)
    (hStart :
      ∀ start ∈ mode.start?, start = byteLength before) :
    ∃ tokens,
      scan line mode
          (offsetsFrom (byteLength (earlier ++ text) + c.utf8Size)
            rest) =
        some tokens ∧
      Lexes (part ++ rest) tokens := by
  have hNext :
      byteLength (earlier ++ text) + c.utf8Size =
        byteLength (before ++ part) := by
    rw [hSame, byteLength_append _ [c]]
    rfl
  rw [hNext]
  refine hRest ?_ hReads hStart
  rw [hSame, hLine, List.append_assoc _ [c]]
  rfl

/- The same where the token in which the scan is goes on. -/
theorem ScansRest.extended
    (hRest : ScansRest line rest)
    (hLine : line = earlier ++ text ++ c :: rest)
    {mode : Mode}
    (hReads : Reads mode (text ++ [c]))
    (hStart :
      ∀ start ∈ mode.start?, start = byteLength earlier) :
    ∃ tokens,
      scan line mode
          (offsetsFrom (byteLength (earlier ++ text) + c.utf8Size)
            rest) =
        some tokens ∧
      Lexes (text ++ c :: rest) tokens := by
  have hGoesOn :=
    hRest.behind hLine (List.append_assoc earlier text [c]).symm
      hReads hStart
  rwa [List.append_assoc] at hGoesOn

/- The same where the scan is between two tokens. -/
theorem ScansRest.anew
    (hRest : ScansRest line rest)
    (hLine : line = earlier ++ text ++ c :: rest) :
    ∃ tokens,
      scan line (.code none)
          (offsetsFrom (byteLength (earlier ++ text) + c.utf8Size)
            rest) =
        some tokens ∧
      Lexes rest tokens :=
  hRest.behind hLine (List.append_nil _) .between
    (by simp [Mode.start?])

/- One character in code. -/
theorem ScansRest.code_cons
    (hRest : ScansRest line rest)
    (hLine : line = earlier ++ text ++ c :: rest)
    {start : Option Nat}
    (hReads : Reads (.code start) text)
    (hStart : ∀ offset ∈ start, offset = byteLength earlier) :
    ∃ tokens,
      scan line (.code start)
          (offsetsFrom (byteLength (earlier ++ text))
            (c :: rest)) =
        some tokens ∧
      Lexes (text ++ c :: rest) tokens := by
  -- A word ends here unless the character belongs to it.
  have hEnds (hOther : isWordChar c = false)
      {later : List SourceToken}
      (hLater : Lexes (c :: rest) later) :
      Lexes (text ++ c :: rest)
        ((if text = [] then [] else [word text]) ++ later) := by
    refine lexes_of_reads hReads ?_ hLater
    rintro _ ⟨rfl⟩
    exact hOther
  rw [offsetsFrom, scan, wordTo?_of_reads hLine hReads hStart]
  simp only [Option.bind_eq_bind, Option.bind_some]
  split
  case isTrue hHash =>
    subst hHash
    have hComment :=
      slice?_middle (earlier ++ text) ('#' :: rest) []
    rw [List.append_nil, ← hLine] at hComment
    rw [hComment]
    exact
      ⟨_, rfl,
        hEnds isWordChar_hash (.single (.comment rest))⟩
  case isFalse hHash =>
    split
    case isTrue hQuote =>
      have hInside :
          Reads (.quoted c (byteLength (earlier ++ text))) [c] :=
        .quoted hQuote (.nil c) not_endsEscaping_nil
      rcases hRest.behind hLine rfl hInside
          (by simp [Mode.start?]) with ⟨later, hLater, hLexes⟩
      rw [hLater]
      exact
        ⟨_, rfl, hEnds (isWordChar_of_isQuote hQuote) hLexes⟩
    case isFalse hQuote =>
      split
      case isTrue hWord =>
        refine hRest.extended hLine
          (hReads.extend_word hWord _) ?_
        rintro _ ⟨rfl⟩
        cases start with
        | none =>
            cases hReads
            rw [List.append_nil]
            rfl
        | some offset => exact hStart offset rfl
      case isFalse hWord =>
        rcases hRest.anew hLine with ⟨later, hLater, hLexes⟩
        have hOther := Bool.of_not_eq_true hWord
        rw [hLater]
        exact
          ⟨_, rfl,
            hEnds hOther
              (.cons
                (.mark rest hHash (Bool.of_not_eq_true hQuote)
                  hOther)
                hLexes)⟩

/- One character in a string. -/
theorem ScansRest.quoted_cons
    (hRest : ScansRest line rest)
    (hLine : line = earlier ++ text ++ c :: rest)
    {quote : Char}
    {start : Nat}
    (hReads : Reads (.quoted quote start) text)
    (hStart : start = byteLength earlier) :
    ∃ tokens,
      scan line (.quoted quote start)
          (offsetsFrom (byteLength (earlier ++ text))
            (c :: rest)) =
        some tokens ∧
      Lexes (text ++ c :: rest) tokens := by
  have hOn :
      ∀ offset ∈ some start, offset = byteLength earlier := by
    rintro _ ⟨rfl⟩
    exact hStart
  rw [offsetsFrom, scan]
  split
  case isTrue hBackslash =>
    subst hBackslash
    exact hRest.extended hLine hReads.escape hOn
  case isFalse hBackslash =>
    split
    case isTrue hClosed =>
      subst hClosed
      have hString := slice?_middle earlier (text ++ [c]) rest
      have hNext :
          byteLength (earlier ++ (text ++ [c])) =
            byteLength (earlier ++ text) + c.utf8Size := by
        rw [← List.append_assoc, byteLength_append _ [c]]
        rfl
      have hWhole :
          earlier ++ (text ++ [c]) ++ rest = line := by
        simp [hLine]
      rw [hNext, hWhole, ← hStart] at hString
      rcases hRest.anew hLine with ⟨later, hLater, hLexes⟩
      rw [hString, hLater]
      refine ⟨_, rfl, ?_⟩
      cases hReads with
      | @quoted _ _ body hQuote hBody hEnd =>
          have hTokens :=
            Lexes.cons (.closed rest hQuote hBody hEnd) hLexes
          simpa [SourceToken.text] using hTokens
    case isFalse hOther =>
      exact hRest.extended hLine
        (hReads.extend_quoted hBackslash hOther) hOn

end Character

/- A scan goes on to the end of the line. -/
theorem scansRest (line rest : List Char) :
    ScansRest line rest := by
  induction rest with
  | nil => exact scansRest_nil line
  | cons c rest ih =>
      intro earlier text mode hLine hReads hStart
      cases mode with
      | code start => exact ih.code_cons hLine hReads hStart
      | quoted quote start =>
          exact ih.quoted_cons hLine hReads (hStart start rfl)
      | escaped quote start =>
          exact ih.extended hLine (hReads.extend_escaped c) hStart

/- A line has tokens, which are those read from the left. -/
theorem ofLine?_lexes (line : List Char) :
    ofLine? line = some (ofLine line) ∧
      Lexes line (ofLine line) := by
  have hScans :=
    @scansRest line line [] [] (.code none) rfl .between
  rcases hScans (by simp [Mode.start?]) with
    ⟨tokens, hTokens, hLexes⟩
  have hLine : ofLine? line = some tokens := hTokens
  rw [ofLine, hLine]
  exact ⟨rfl, hLexes⟩

------------------------------------------------------------
-- Spans
------------------------------------------------------------

/- The spans have the texts of the tokens. -/
theorem map_text_spans (tokens : List SourceToken) :
    (spans tokens).map Span.text =
      tokens.map fun token => String.ofList token.text := by
  induction tokens with
  | nil => rfl
  | cons token rest ih => rw [spans, List.map_cons, ih]; rfl

/- The spans of the tokens of a text make up the text. -/
theorem Lexes.text_spans
    {text : List Char}
    {tokens : List SourceToken}
    (hLexes : Lexes text tokens) :
    (Line.ofSpans (spans tokens)).text = String.ofList text := by
  rw [← String.toList_inj, Line.text, Line.ofSpans,
    map_text_spans, String.toList_join, List.flatMap_map,
    String.toList_ofList, ← hLexes.flatMap_text]
  simp

/- No token of a text is empty. -/
theorem Lexes.text_ne_nil
    {text : List Char}
    {tokens : List SourceToken}
    (hLexes : Lexes text tokens) :
    ∀ token ∈ tokens, token.text ≠ [] := by
  induction hLexes with
  | nil => nofun
  | cons hFirst hRest ih =>
      rw [List.forall_mem_cons]
      exact ⟨hFirst.text_ne_nil, ih⟩

/-
  The spans of a line of a program are the tokens that a
  reader takes off its front. The line is cut between
  characters only; the spans make it up, and none is empty;
  nothing follows a comment, and no word follows a word.
-/
theorem tokens_read_from_left (line : List Char) :
    ofLine? line = some (ofLine line) ∧
    (∀ tokens, Lexes line tokens ↔ tokens = ofLine line) ∧
    ((spans (ofLine line)).map Span.text =
        (ofLine line).map fun token =>
          String.ofList token.text) ∧
    ((Line.ofSpans (spans (ofLine line))).text =
        String.ofList line ∧
      ∀ span ∈ spans (ofLine line), span.text ≠ "") ∧
    (∀ before body after,
      ofLine line = before ++ comment body :: after →
        after = []) ∧
    ∀ before text next after,
      ofLine line ≠
        before ++ word text :: word next :: after := by
  rcases ofLine?_lexes line with ⟨hSome, hLexes⟩
  refine ⟨hSome, fun tokens => ⟨?_, ?_⟩,
    map_text_spans _, ⟨hLexes.text_spans, fun span hSpan => ?_⟩,
    fun before body after hSame => ?_,
    fun before text next after hSame => ?_⟩
  · exact fun hTokens => hTokens.unique hLexes
  · rintro rfl
    exact hLexes
  · have hText := List.mem_map_of_mem (f := Span.text) hSpan
    rw [map_text_spans] at hText
    rcases List.mem_map.mp hText with ⟨token, hToken, hSame⟩
    rw [← hSame, Ne, String.ofList_eq_empty_iff]
    exact hLexes.text_ne_nil token hToken
  · rw [hSame] at hLexes
    exact hLexes.comment_last
  · rw [hSame] at hLexes
    exact hLexes.words_apart

end SourceToken

end TracePlayer
