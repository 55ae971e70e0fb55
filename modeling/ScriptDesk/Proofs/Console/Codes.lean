import ScriptDesk.Console.Failure
import ScriptDesk.Proofs.Script.Forms
import ScriptDesk.Proofs.Text.Mentions

/-!
# Kinds of failures and their codes

A text tells codes by the words in it (`told`), and the code of a message is the first one that it
tells (`ofMessage_isFirst`). Messages are put together from fixed texts and texts that they quote.
No word goes across the border of a fixed text, so a message tells what its fixed texts tell, and
what each of the quoted ones tells by itself (`Tells`).

The fixed texts of a failure tell its kind and nothing else (`Failure.tells_message`). So its code
is that of its kind or one that comes earlier and is told by a quoted text (`code_isFirst`), and
these determine it (`code_congr`).
-/

namespace ScriptDesk

open Text

namespace Console

namespace ErrorCode

/-- All words that tell a code. -/
def words : List Text :=
  signs.map Prod.fst

/-- The codes that a text tells by the words in it. -/
def told (text : Text) : List ErrorCode :=
  (signs.filter fun sign => Text.mentions sign.1 text.lowerAscii).map Prod.snd

theorem mem_told_iff {text : Text} {code : ErrorCode} :
    code ∈ told text ↔ ∃ word, (word, code) ∈ signs ∧ word <:+: text.lowerAscii := by
  simp only [told, List.mem_map, List.mem_filter, mentions_iff]
  constructor
  · rintro ⟨⟨word, code⟩, ⟨hsign, hword⟩, rfl⟩
    exact ⟨word, hsign, hword⟩
  · rintro ⟨word, hsign, hword⟩
    exact ⟨(word, code), ⟨hsign, hword⟩, rfl⟩

theorem mem_words {word : Text} {code : ErrorCode} (h : (word, code) ∈ signs) : word ∈ words :=
  List.mem_map.mpr ⟨_, h, rfl⟩

/-- How early the code is looked for. -/
def rank : ErrorCode → Nat
  | .notFound => 0
  | .exists => 1
  | .invalid => 2
  | .denied => 3
  | .other => 4

theorem rank_injective : Function.Injective rank := by
  intro a b h
  cases a <;> cases b <;> first | rfl | cases h

theorem ofMessage_eq (message : Text) : ofMessage message = (told message).head?.getD .other := by
  rw [told, List.head?_map, List.head?_filter, ofMessage]
  cases signs.find? _ <;> rfl

/-- The code of a message is the first one that it tells. -/
theorem ofMessage_isFirst (message : Text) :
    (ofMessage message ∈ told message ∨ told message = [] ∧ ofMessage message = .other) ∧
      ∀ code ∈ told message, (ofMessage message).rank ≤ code.rank := by
  have hsorted : (told message).Pairwise fun a b => a.rank ≤ b.rank := by
    have hsigns : (signs.map Prod.snd).Pairwise fun a b => a.rank ≤ b.rank := by decide
    exact hsigns.sublist (List.filter_sublist.map Prod.snd)
  rw [ofMessage_eq]
  cases htold : told message with
  | nil => exact ⟨.inr ⟨rfl, rfl⟩, nofun⟩
  | cons first others =>
    rw [htold] at hsorted
    refine ⟨.inl List.mem_cons_self, fun code hcode => ?_⟩
    rcases List.mem_cons.mp hcode with rfl | hothers
    · exact Nat.le_refl _
    · exact List.rel_of_pairwise_cons hsorted hothers

/-- Where no word goes across the border, two texts tell the codes that either of them tells. -/
theorem mem_told_append {front back : Text}
    (h : EndsApart words front.lowerAscii ∨ StartsApart words back.lowerAscii)
    {code : ErrorCode} :
    code ∈ told (front ++ back) ↔ code ∈ told front ∨ code ∈ told back := by
  simp only [mem_told_iff, lowerAscii_append, ← exists_or, ← and_or_left]
  refine exists_congr fun word => and_congr_right fun hsign => ?_
  exact infix_append_iff_of_apart h (mem_words hsign)

/-- Every word has a blank, so a text without blanks tells nothing. -/
theorem told_eq_nil {text : Text} (h : ' ' ∉ text) : told text = [] := by
  rw [List.eq_nil_iff_forall_not_mem]
  intro code hcode
  obtain ⟨word, hsign, hword⟩ := mem_told_iff.mp hcode
  have hblank : ∀ word ∈ words, ' ' ∈ word := by decide
  have hcaseless : IsCaseless ' ' := isCaseless_of_forall (by decide)
  obtain ⟨c, hmem, hc⟩ := List.mem_map.mp (hword.subset (hblank word (mem_words hsign)))
  exact h ((hcaseless c).mp hc ▸ hmem)

theorem told_ofNat (n : Nat) : told (Text.ofNat n) = [] := by
  refine told_eq_nil fun hmem => ?_
  have hdigit := Nat.isDigit_of_mem_toDigits (by decide) (by decide) hmem
  cases hdigit

/-- The code as far as there are words for it. -/
def own : ErrorCode → List ErrorCode
  | .other => []
  | code => [code]

theorem mem_own_iff {code kind : ErrorCode} : code ∈ own kind ↔ code = kind ∧ kind ≠ .other := by
  cases kind <;> simp [own]

theorem rank_le_other (code : ErrorCode) : code.rank ≤ ErrorCode.other.rank := by
  cases code <;> decide

end ErrorCode

open ErrorCode

/-! ### Which codes a text tells -/

/-- The text tells these codes of its own, and those that the texts tell that it quotes. -/
def Tells (text : Text) (codes : List ErrorCode) (quoted : List Text) : Prop :=
  ∀ code, code ∈ told text ↔ code ∈ codes ∨ ∃ quote ∈ quoted, code ∈ told quote

/-- Only which codes and which quotes there are matters. -/
theorem Tells.congr {text : Text} {codes codes' : List ErrorCode} {quoted quoted' : List Text}
    (h : Tells text codes quoted) (hcodes : ∀ code, code ∈ codes ↔ code ∈ codes')
    (hquoted : ∀ quote, quote ∈ quoted ↔ quote ∈ quoted') : Tells text codes' quoted' := by
  intro code
  rw [h code, hcodes]
  simp only [hquoted]

theorem tells_quote (text : Text) : Tells text [] [text] := by
  simp [Tells]

theorem tells_fixed {text : Text} {codes : List ErrorCode} (h : told text = codes) :
    Tells text codes [] := by
  simp [Tells, h]

theorem Tells.append {front back : Text} {codes codes' : List ErrorCode}
    {quoted quoted' : List Text} (h : Tells front codes quoted) (h' : Tells back codes' quoted')
    (hborder : EndsApart words front.lowerAscii ∨ StartsApart words back.lowerAscii) :
    Tells (front ++ back) (codes ++ codes') (quoted ++ quoted') := by
  intro code
  rw [mem_told_append hborder, h code, h' code]
  simp only [List.mem_append, or_and_right, exists_or]
  exact or_or_or_comm

/-- A text that can stand before any other one, and the codes that it tells. -/
abbrev Leads (text : Text) (codes : List ErrorCode) : Prop :=
  EndsApart words text.lowerAscii ∧ told text = codes

/-- A text that can stand behind any other one, and the codes that it tells. -/
abbrev Trails (text : Text) (codes : List ErrorCode) : Prop :=
  StartsApart words text.lowerAscii ∧ told text = codes

/-- A text that can stand between any two others. -/
abbrev Divides (text : Text) : Prop :=
  Leads text [] ∧ Trails text [] ∧ ∀ word ∈ words, ¬text.lowerAscii <:+: word

theorem Tells.behind {front text : Text} {codes codes' : List ErrorCode} {quoted : List Text}
    (h : Tells text codes' quoted) (hfront : Leads front codes) :
    Tells (front ++ text) (codes ++ codes') quoted :=
  (tells_fixed hfront.2).append h (.inl hfront.1)

theorem Tells.before {text back : Text} {codes codes' : List ErrorCode} {quoted : List Text}
    (h : Tells text codes quoted) (hback : Trails back codes') :
    Tells (text ++ back) (codes ++ codes') quoted := by
  have hwhole := h.append (tells_fixed hback.2) (.inr hback.1)
  rwa [List.append_nil] at hwhole

/-- Two texts stand at the two sides of a mark. -/
theorem Tells.beside {front mark back : Text} {codes codes' : List ErrorCode}
    {quoted quoted' : List Text} (h : Tells front codes quoted) (h' : Tells back codes' quoted')
    (hmark : Divides mark) :
    Tells (front ++ mark ++ back) (codes ++ codes') (quoted ++ quoted') := by
  obtain ⟨⟨hends, -⟩, htrails, hforeign⟩ := hmark
  have hfront := h.before htrails
  rw [List.append_nil] at hfront
  refine hfront.append h' (.inl ?_)
  rw [lowerAscii_append]
  exact hends.append hforeign _

end Console

/-! ### What failures quote -/

open Console Console.ErrorCode

namespace Json.Fault

/-- The texts that the wording of a fault quotes. -/
def quoted : Fault → List Text
  | .syntaxError | .invalidIdentity => []
  | .missingField name | .duplicateField name => [name]
  | .unknownVariant given known => [given, choices known]
  | .invalidType found expected | .invalidValue found expected => [found, expected]
  | .invalidLength _ expected => [expected]

theorem tells_message (fault : Fault) : Tells fault.message [] fault.quoted := by
  obtain ⟨hbroken, hidentity, hmissing, hduplicate, hunknown, htype, hvalue, hlength⟩ :
      told "syntax error".toList = [] ∧ told "UUID parsing failed".toList = [] ∧
      Leads "missing field ".toList [] ∧ Leads "duplicate field ".toList [] ∧
      Leads "unknown variant ".toList [] ∧ Leads "invalid type: ".toList [] ∧
      Leads "invalid value: ".toList [] ∧ Leads "invalid length ".toList [] := by
    decide +kernel
  obtain ⟨hopen, hclose, hcomma, hexpected⟩ :
      Leads "\x60".toList [] ∧ Trails "\x60".toList [] ∧ Divides ", ".toList ∧
      Divides ", expected ".toList := by
    decide +kernel
  have hticked : ∀ text, Tells (ticked text) [] [text] := fun text =>
    ((tells_quote text).behind hopen).before hclose
  cases fault with
  | syntaxError => exact tells_fixed hbroken
  | invalidIdentity => exact tells_fixed hidentity
  | missingField name => exact (hticked name).behind hmissing
  | duplicateField name => exact (hticked name).behind hduplicate
  | unknownVariant given known =>
    exact ((hticked given).behind hunknown).beside (tells_quote (choices known)) hcomma
  | invalidType found expected =>
    exact ((tells_quote found).behind htype).beside (tells_quote expected) hexpected
  | invalidValue found expected =>
    exact ((tells_quote found).behind hvalue).beside (tells_quote expected) hexpected
  | invalidLength length expected =>
    exact ((tells_fixed (told_ofNat length)).behind hlength).beside (tells_quote expected) hexpected

end Json.Fault

namespace ScriptFile.FormatError

/-- The texts that the wording of an error quotes. -/
def quoted : FormatError → List Text
  | .delimiters _ => []
  | .identity spelling => [spelling]
  | .config fault => fault.quoted

theorem tells_message (error : FormatError) : Tells error.message [] error.quoted := by
  obtain ⟨hcount, hopen, hclose, hconfig⟩ :
      Leads ("script must contain exactly one \x60".toList ++ delimiter ++
        "\x60 line, found ".toList) [] ∧
      Leads "script identity \x60".toList [] ∧ Trails "\x60 is not a valid UUID".toList [] ∧
      Leads "script config could not be decoded: ".toList [] := by
    decide +kernel
  cases error with
  | delimiters found => exact (tells_fixed (told_ofNat found)).behind hcount
  | identity spelling => exact ((tells_quote spelling).behind hopen).before hclose
  | config fault => exact fault.tells_message.behind hconfig

end ScriptFile.FormatError

namespace DiskError

/-- The kind of an error. -/
def kind : DiskError → ErrorCode
  | .notFound => .notFound
  | _ => .other

theorem kind_cases (error : DiskError) :
    error = .notFound ∧ error.kind = .notFound ∨ error ≠ .notFound ∧ error.kind = .other := by
  cases error with
  | notFound => exact .inl ⟨rfl, rfl⟩
  | _ => exact .inr ⟨nofun, rfl⟩

theorem tells_message (error : DiskError) : Tells error.message error.kind.own [] := by
  have hall : ∀ error ∈ [DiskError.notFound, .exists, .notDirectory, .isDirectory, .nameTooLong,
      .notText, .nulInName, .noWholeTree], told error.message = error.kind.own := by
    decide +kernel
  exact tells_fixed (hall error (by cases error <;> simp))

end DiskError

open PathUnit (shown)

namespace DocumentError

variable {α : Type}

/-- The kind of an error. -/
def kind : DocumentError α → ErrorCode
  | .noPath _ => .other
  | .disk _ error => error.kind
  | .exists _ => .exists
  | .format _ _ => .invalid

variable [PathUnit α]

/-- The texts that the wording of an error quotes. -/
def quoted : DocumentError α → List Text
  | .noPath id => [id.text]
  | .disk path _ | .exists path => [shown path]
  | .format path error => shown path :: error.quoted

/-- What the wording of an error tells with all reasons. -/
theorem tells_chain (error : DocumentError α) :
    Tells (Text.join ": ".toList error.chain) error.kind.own error.quoted := by
  obtain ⟨hcolon, hid, hunset, haccess, hfile, hexists, hinvalid⟩ : Divides ": ".toList ∧
      Leads "script ".toList [] ∧ Trails " has no file path; cannot save".toList [] ∧
      Leads "failed to access script file ".toList [] ∧
      Leads "script file ".toList [] ∧ Trails " already exists".toList [.exists] ∧
      Leads "invalid script file ".toList [.invalid] := by
    decide +kernel
  cases error with
  | noPath id => exact ((tells_quote id.text).behind hid).before hunset
  | disk path error =>
    have hmessage := ((tells_quote (shown path)).behind haccess).beside error.tells_message hcolon
    exact (hmessage.beside error.tells_message hcolon).congr (by simp [kind]) (by simp [quoted])
  | «exists» path => exact ((tells_quote (shown path)).behind hfile).before hexists
  | format path error =>
    have hmessage := ((tells_quote (shown path)).behind hinvalid).beside error.tells_message hcolon
    have hreason := hmessage.beside error.tells_message hcolon
    cases error with
    | delimiters found => exact hreason.congr (by simp [kind, own]) (by simp [quoted])
    | identity spelling => exact hreason.congr (by simp [kind, own]) (by simp [quoted])
    | config fault =>
      -- the settings are the reason behind the reason
      have hreasons := hmessage.beside
        ((ScriptFile.FormatError.config fault).tells_message.beside fault.tells_message hcolon)
        hcolon
      exact hreasons.congr (by simp [kind, own])
        (by simp [quoted, ScriptFile.FormatError.quoted])

end DocumentError

namespace Console.Failure

variable {α : Type}

/-- The kind of a failure. -/
def kind : Failure α → ErrorCode
  | .emptyName | .nameWithSeparator _ => .other
  | .creating _ cause | .opening _ cause | .saving _ cause => cause.kind

variable [PathUnit α]

/-- The texts that the wording of a failure quotes: names, paths and parts of files. -/
def quoted : Failure α → List Text
  | .emptyName => []
  | .nameWithSeparator name => [name]
  | .creating name cause => name :: cause.quoted
  | .opening path cause | .saving path cause => shown path :: cause.quoted

theorem append_marked (front text back : Text) :
    front ++ marked text ++ back = front ++ ['\x60'] ++ text ++ '\x60' :: back := by
  simp [marked]

theorem tells_message (failure : Failure α) :
    Tells failure.message failure.kind.own failure.quoted := by
  obtain ⟨hempty, hname, hpath, hcreate, hopen, hsave, hmark, hcolon⟩ :
      told "script name must not be empty".toList = [] ∧
      Leads ("script name ".toList ++ ['\x60']) [] ∧
      Trails ('\x60' :: " must not contain path separators".toList) [] ∧
      Leads ("failed to create script ".toList ++ ['\x60']) [] ∧
      Leads ("failed to open script ".toList ++ ['\x60']) [] ∧
      Leads ("failed to save script ".toList ++ ['\x60']) [] ∧
      Trails ['\x60'] [] ∧ Divides ": ".toList := by
    decide +kernel
  have hcause : ∀ (opening text : Text) (cause : DocumentError α), Leads (opening ++ ['\x60']) [] →
      Tells (Text.join ": ".toList ((opening ++ marked text) :: cause.chain)) cause.kind.own
        (text :: cause.quoted) := by
    intro opening text cause hopening
    have hsubject := ((tells_quote text).behind hopening).before hmark
    rw [← append_marked, List.append_nil] at hsubject
    obtain ⟨first, others, hchain⟩ : ∃ first others, cause.chain = first :: others := by
      fun_cases DocumentError.chain cause <;> exact ⟨_, _, rfl⟩
    have hwhole := hsubject.beside cause.tells_chain hcolon
    rw [hchain] at hwhole ⊢
    exact hwhole
  cases failure with
  | emptyName => exact tells_fixed hempty
  | nameWithSeparator name =>
    have h := ((tells_quote name).behind hname).before hpath
    rw [← append_marked] at h
    exact h
  | creating name cause => exact hcause _ name cause hcreate
  | opening path cause => exact hcause _ (shown path) cause hopen
  | saving path cause => exact hcause _ (shown path) cause hsave

/-- **The code of a failure** is that of its kind, or one that comes earlier and is told by a text
that the failure quotes: the first one of all these. -/
theorem code_isFirst (failure : Failure α) :
    (failure.code = failure.kind ∨ ∃ quote ∈ failure.quoted, failure.code ∈ told quote) ∧
      failure.code.rank ≤ failure.kind.rank ∧
      ∀ quote ∈ failure.quoted, ∀ code ∈ told quote, failure.code.rank ≤ code.rank := by
  have htells := failure.tells_message
  obtain ⟨htold, hfirst⟩ := ofMessage_isFirst failure.message
  refine ⟨?_, ?_, fun quote hquote code hcode =>
    hfirst code ((htells code).mpr (.inr ⟨quote, hquote, hcode⟩))⟩
  · rcases htold with hcode | ⟨hnone, hother⟩
    · rcases (htells _).mp hcode with hown | hquoted
      · exact .inl (mem_own_iff.mp hown).1
      · exact .inr hquoted
    · by_cases hkind : failure.kind = .other
      · exact .inl (hother.trans hkind.symm)
      · have hown := (htells failure.kind).mpr (.inl (mem_own_iff.mpr ⟨rfl, hkind⟩))
        rw [hnone] at hown
        cases hown
  · by_cases hkind : failure.kind = .other
    · rw [hkind]
      exact rank_le_other _
    · exact hfirst _ ((htells failure.kind).mpr (.inl (mem_own_iff.mpr ⟨rfl, hkind⟩)))

/-- So it is that of the kind unless an earlier one is told. -/
theorem code_eq_kind_iff (failure : Failure α) :
    failure.code = failure.kind ↔
      ∀ quote ∈ failure.quoted, ∀ code ∈ told quote, failure.kind.rank ≤ code.rank := by
  obtain ⟨hcases, hkind, hquoted⟩ := failure.code_isFirst
  constructor
  · intro h
    rwa [h] at hquoted
  · intro h
    rcases hcases with hcode | ⟨quote, hquote, hcode⟩
    · exact hcode
    · exact rank_injective (Nat.le_antisymm hkind (h quote hquote _ hcode))

/-- And the kind and what is told determine it. -/
theorem code_congr {failure other : Failure α} (hkind : failure.kind = other.kind)
    (hquoted : ∀ code, (∃ quote ∈ failure.quoted, code ∈ told quote) ↔
      ∃ quote ∈ other.quoted, code ∈ told quote) :
    failure.code = other.code := by
  have hle : ∀ {a b : Failure α}, a.kind = b.kind →
      (∀ code, (∃ quote ∈ a.quoted, code ∈ told quote) → ∃ quote ∈ b.quoted, code ∈ told quote) →
      b.code.rank ≤ a.code.rank := by
    intro a b hsame hquoted
    obtain ⟨-, hbelow, hfirst⟩ := b.code_isFirst
    rcases a.code_isFirst.1 with hcode | htold
    · rw [hcode, hsame]
      exact hbelow
    · obtain ⟨quote, hquote, hcode⟩ := hquoted _ htold
      exact hfirst quote hquote _ hcode
  exact rank_injective (Nat.le_antisymm (hle hkind.symm fun code => (hquoted code).mpr)
    (hle hkind fun code => (hquoted code).mp))

end Console.Failure

end ScriptDesk
