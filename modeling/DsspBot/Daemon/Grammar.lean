import DsspBot.Daemon.Http
import DsspBot.Lib.Raising

/-!
# Grammar — what a request has to look like

A header block that is accepted is one of the grammar, and its body is as long as the block says.
How the bytes were cut on the way makes no difference.
-/

namespace DsspBot

open Lines (EndsFirst)

/-! ## The grammar -/

/-- A header line: a token, a colon and printable text. -/
structure HeaderField where
  name : List UInt8
  value : List UInt8
  token : name ≠ [] ∧ name.all httpToken = true
  printable : badValue value = false

def HeaderField.line (field : HeaderField) : List UInt8 :=
  field.name ++ 58 :: field.value

/-- How the field is looked up: by its lower-cased name, the value trimmed. -/
def HeaderField.entry (field : HeaderField) : String × String :=
  (ascii (field.name.map toLower), ascii (Words.trim isBlankByte field.value))

structure HeaderText where
  method : List UInt8
  path : List UInt8
  fields : List HeaderField

namespace HeaderText

variable (text : HeaderText)

def requestLine : List UInt8 :=
  text.method ++ 32 :: (text.path ++ 32 :: VERSION)

def lines : List (List UInt8) :=
  text.requestLine :: text.fields.map HeaderField.line

def bytes : List UInt8 :=
  Lines.join CR LF text.lines ++ [CR, LF]

def headers : List (String × String) :=
  text.fields.map HeaderField.entry

def size : Nat :=
  ((header text.headers "content-length").map decimalValue).getD 0

def head : RequestHead :=
  { method := ascii text.method, path := ascii text.path, headers := text.headers
    size := text.size }

def request (body : List UInt8) : HttpRequest :=
  { method := ascii text.method, path := ascii text.path, headers := text.headers, body := body }

end HeaderText

/-- A header block of the grammar. -/
structure HeaderBlock extends HeaderText where
  method_token : method ≠ [] ∧ method.all httpToken = true
  path_graphic : path.head? = some 47 ∧ ∀ b ∈ path, isGraphic b = true ∧ b ≠ 35
  /-- No name comes twice, whatever its case. -/
  apart : (toHeaderText.headers.map (·.1)).Nodup
  host : ∃ host, header toHeaderText.headers "host" = some host ∧ goodHost host = true
  framing : header toHeaderText.headers "transfer-encoding" = none ∧
    header toHeaderText.headers "expect" = none
  length : ∀ value, header toHeaderText.headers "content-length" = some value →
    value ≠ "" ∧ value.toList.all isDigit = true ∧ decimalValue value ≤ BODY_LIMIT
  short : toHeaderText.bytes.length ≤ HEADER_LIMIT

/-! ## Bytes of a block -/

/-- Every byte is below 128 and none is a carriage return. -/
def PlainBytes (bytes : List UInt8) : Prop :=
  ∀ b ∈ bytes, b < 128 ∧ b ≠ CR

theorem PlainBytes.append {front back : List UInt8} (hfront : PlainBytes front)
    (hback : PlainBytes back) : PlainBytes (front ++ back) :=
  List.forall_mem_append.2 ⟨hfront, hback⟩

theorem PlainBytes.cons {b : UInt8} {bytes : List UInt8} (hb : b < 128 ∧ b ≠ CR)
    (hbytes : PlainBytes bytes) : PlainBytes (b :: bytes) :=
  List.forall_mem_cons.2 ⟨hb, hbytes⟩

/-- A byte is one of 256. -/
theorem forall_byte {p : UInt8 → Prop} (h : ∀ n : Fin 256, p (UInt8.ofFin n)) (b : UInt8) : p b :=
  h b.toFin

theorem httpToken_plain (b : UInt8) :
    httpToken b = true → (b < 128 ∧ b ≠ CR) ∧ b ≠ 32 ∧ b ≠ 58 := by
  revert b
  apply forall_byte
  decide +kernel

theorem isGraphic_plain (b : UInt8) : isGraphic b = true → (b < 128 ∧ b ≠ CR) ∧ b ≠ 32 := by
  revert b
  apply forall_byte
  decide +kernel

theorem printable_plain (b : UInt8) :
    decide ((b < 32 ∧ b ≠ 9) ∨ 127 ≤ b) = false → b < 128 ∧ b ≠ CR := by
  revert b
  apply forall_byte
  decide +kernel

theorem HeaderField.name_plain (field : HeaderField) : PlainBytes field.name :=
  fun b hb => (httpToken_plain b (List.all_eq_true.1 field.token.2 b hb)).1

theorem HeaderField.line_plain (field : HeaderField) : PlainBytes field.line := by
  refine field.name_plain.append (.cons (by decide) ?_)
  intro b hb
  apply printable_plain
  exact Bool.eq_false_iff.2 fun hbad =>
    Bool.eq_false_iff.1 field.printable (List.any_eq_true.2 ⟨b, hb, hbad⟩)

theorem HeaderField.line_ne_nil (field : HeaderField) : field.line ≠ [] := by
  simp [HeaderField.line]

theorem HeaderBlock.requestLine_plain (block : HeaderBlock) : PlainBytes block.requestLine := by
  have hmethod : PlainBytes block.method := fun b hb =>
    (httpToken_plain b (List.all_eq_true.1 block.method_token.2 b hb)).1
  have hpath : PlainBytes block.path := fun b hb =>
    (isGraphic_plain b (block.path_graphic.2 b hb).1).1
  have hversion : PlainBytes VERSION := by
    unfold PlainBytes
    decide +kernel
  exact hmethod.append (.cons (by decide) (hpath.append (.cons (by decide) hversion)))

theorem HeaderBlock.lines_plain (block : HeaderBlock) :
    ∀ line ∈ block.lines, line ≠ [] ∧ PlainBytes line := by
  refine List.forall_mem_cons.2 ⟨⟨?_, block.requestLine_plain⟩, ?_⟩
  · simp [HeaderText.requestLine]
  · intro line hline
    rcases List.mem_map.1 hline with ⟨field, -, rfl⟩
    exact ⟨field.line_ne_nil, field.line_plain⟩

theorem HeaderBlock.lines_without_cr (block : HeaderBlock) : ∀ line ∈ block.lines, CR ∉ line :=
  fun line hline hmem => ((block.lines_plain line hline).2 CR hmem).2 rfl

/-- A block of the grammar ends at its first empty line. -/
theorem HeaderBlock.endsFirst (block : HeaderBlock) : EndsFirst CRLFCRLF block.bytes :=
  Lines.endsFirst_join (by decide) (List.cons_ne_nil _ _) fun line hline =>
    ⟨(block.lines_plain line hline).1, block.lines_without_cr line hline⟩

theorem HeaderBlock.split_bytes (block : HeaderBlock) :
    Lines.split CR LF block.bytes = block.lines ++ [[], []] := by
  unfold HeaderText.bytes
  rw [Lines.split_join (by decide) block.lines_without_cr, Lines.split_pair]

theorem isUtf8_cons_of_lt {a : UInt8} (ha : a < 128) (rest : List UInt8) :
    isUtf8 (a :: rest) = isUtf8 rest := by
  match rest with
  | [] => simp [isUtf8, ha]
  | [_] => simp [isUtf8, ha]
  | [_, _] => simp [isUtf8, ha]
  | _ :: _ :: _ :: _ => simp [isUtf8, ha]

theorem isUtf8_of_lt {bytes : List UInt8} (h : ∀ b ∈ bytes, b < 128) : isUtf8 bytes = true := by
  induction bytes with
  | nil => rfl
  | cons a rest ih =>
      rcases List.forall_mem_cons.1 h with ⟨ha, hrest⟩
      calc isUtf8 (a :: rest) = isUtf8 rest := isUtf8_cons_of_lt ha rest
        _ = true := ih hrest

theorem HeaderBlock.isUtf8_bytes (block : HeaderBlock) : isUtf8 block.bytes = true := by
  apply isUtf8_of_lt
  refine List.forall_mem_append.2 ⟨?_, by decide +kernel⟩
  intro b hb
  rcases List.mem_flatMap.1 hb with ⟨line, hline, hmem⟩
  rcases List.mem_append.1 hmem with hmem | hmem
  · exact ((block.lines_plain line hline).2 b hmem).1
  · have hpair : ∀ b ∈ [CR, LF], b < 128 := by decide +kernel
    exact hpair b hmem

/-! ## One line -/

theorem header_eq_none_iff {headers : List (String × String)} {name : String} :
    header headers name = none ↔ name ∉ headers.map (·.1) := by
  unfold header
  rw [Option.map_eq_none_iff, List.find?_eq_none]
  constructor
  · intro h hmem
    rcases List.mem_map.1 hmem with ⟨entry, hentry, hname⟩
    exact h entry hentry (by simpa using hname)
  · intro h entry hentry hname
    exact h (List.mem_map.2 ⟨entry, hentry, by simpa using hname⟩)

theorem splitColon_eq_some_iff {line key value : List UInt8} :
    splitColon line = some (key, value) ↔ line = key ++ 58 :: value ∧ 58 ∉ key := by
  unfold splitColon
  constructor
  · intro h
    split at h
    · cases h
    · next first rest hdrop =>
        obtain ⟨rfl, rfl⟩ := Prod.mk.inj (Option.some.inj h)
        have hfirst : first = 58 := by
          have hhead := List.head?_dropWhile_not (fun b : UInt8 => decide (b ≠ 58)) line
          rw [hdrop] at hhead
          simpa using hhead
        refine ⟨?_, ?_⟩
        · calc line = line.takeWhile (· ≠ 58) ++ line.dropWhile (· ≠ 58) :=
                List.takeWhile_append_dropWhile.symm
            _ = line.takeWhile (· ≠ 58) ++ 58 :: rest := by rw [hdrop, hfirst]
        · intro hmem
          have hcolon := List.mem_takeWhile_imp hmem
          simp at hcolon
  · rintro ⟨rfl, hkey⟩
    have hpass : ∀ b ∈ key, decide (b ≠ 58) = true := by
      rintro b hb
      apply decide_eq_true
      rintro rfl
      exact hkey hb
    rw [List.dropWhile_append_of_pos hpass, List.takeWhile_append_of_pos hpass]
    simp

theorem addHeader_ok_iff {headers headers' : List (String × String)} {line : List UInt8} :
    addHeader headers line = .ok headers' ↔
      ∃ field : HeaderField, line = field.line ∧ headers' = headers ++ [field.entry] ∧
        header headers field.entry.1 = none := by
  constructor
  · intro h
    unfold addHeader at h
    split at h
    · cases h
    · next key value hsplit =>
        obtain ⟨rfl, -⟩ := splitColon_eq_some_iff.1 hsplit
        split at h
        · cases h
        · next hgood =>
            simp only [Bool.or_eq_true, not_or, Bool.not_eq_true, Bool.not_eq_eq_eq_not,
              Bool.not_true, Bool.not_eq_false, List.isEmpty_eq_false_iff] at hgood
            dsimp only at h
            split at h
            · cases h
            · next hnew =>
                exact ⟨⟨key, value, ⟨hgood.1.1, hgood.1.2⟩, hgood.2⟩, rfl, (Except.ok.inj h).symm,
                  Option.not_isSome_iff_eq_none.1 hnew⟩
  · rintro ⟨field, rfl, rfl, hnew⟩
    have hcolon : 58 ∉ field.name := fun hmem =>
      (httpToken_plain 58 (List.all_eq_true.1 field.token.2 58 hmem)).2.2 rfl
    have hsplit : splitColon field.line = some (field.name, field.value) :=
      splitColon_eq_some_iff.2 ⟨rfl, hcolon⟩
    have hempty : field.name.isEmpty = false := List.isEmpty_eq_false_iff.2 field.token.1
    have hname : (header headers (ascii (field.name.map toLower))).isSome = false := by
      rw [← Option.not_isSome_iff_eq_none] at hnew
      exact Bool.eq_false_iff.2 hnew
    unfold addHeader
    rw [hsplit]
    simp [hempty, field.token.2, field.printable, hname, HeaderField.entry]

/-- All lines are header lines, and no name comes twice. -/
theorem addHeaders_ok_iff {headers headers' : List (String × String)} {lines : List (List UInt8)}
    (hapart : (headers.map (·.1)).Nodup) :
    lines.foldlM addHeader headers = .ok headers' ↔
      ∃ fields : List HeaderField, lines = fields.map HeaderField.line ∧
        headers' = headers ++ fields.map HeaderField.entry ∧ (headers'.map (·.1)).Nodup := by
  induction lines generalizing headers with
  | nil =>
      constructor
      · intro h
        obtain rfl : headers = headers' := Except.ok.inj h
        exact ⟨[], rfl, by simp, hapart⟩
      · rintro ⟨fields, hlines, rfl, -⟩
        obtain rfl : fields = [] := by simpa using hlines.symm
        simp [pure, Except.pure]
  | cons line lines ih =>
      have hextend : ∀ field : HeaderField, header headers field.entry.1 = none →
          ((headers ++ [field.entry]).map (·.1)).Nodup := by
        intro field hnew
        rw [List.map_append, List.nodup_append]
        refine ⟨hapart, List.nodup_singleton _, ?_⟩
        rintro name hname other hother rfl
        obtain rfl := List.mem_singleton.1 hother
        exact header_eq_none_iff.1 hnew hname
      constructor
      · intro h
        cases hadd : addHeader headers line with
        | error reply => simp [List.foldlM_cons, hadd, bind, Except.bind] at h
        | ok middle =>
            rcases addHeader_ok_iff.1 hadd with ⟨field, rfl, rfl, hnew⟩
            rw [List.foldlM_cons, hadd] at h
            rcases (ih (hextend field hnew)).1 h with ⟨fields, rfl, rfl, hnodup⟩
            exact ⟨field :: fields, rfl, by simp, hnodup⟩
      · rintro ⟨fields, hlines, rfl, hnodup⟩
        cases fields with
        | nil => simp at hlines
        | cons field fields =>
            obtain ⟨rfl, rfl⟩ := List.cons.inj hlines
            have hnew : header headers field.entry.1 = none := by
              apply header_eq_none_iff.2
              intro hmem
              rw [List.map_append, List.nodup_append] at hnodup
              exact hnodup.2.2 _ hmem field.entry.1 (by simp) rfl
            have hadd : addHeader headers field.line = .ok (headers ++ [field.entry]) :=
              addHeader_ok_iff.2 ⟨field, rfl, rfl, hnew⟩
            rw [List.foldlM_cons, hadd]
            exact (ih (hextend field hnew)).2 ⟨fields, rfl, by simp, hnodup⟩

/-! ## The whole block -/

/-- A length within the limit fits a `usize` all the more. -/
theorem contentLength_ok_iff {value : String} {size : Nat} :
    contentLength value = .ok size ↔
      (value ≠ "" ∧ value.toList.all isDigit = true ∧ decimalValue value ≤ BODY_LIMIT) ∧
        size = decimalValue value := by
  have hsmall : BODY_LIMIT < USIZE_END := by decide
  unfold contentLength
  constructor
  · intro h
    split at h
    · cases h
    · next hdigits =>
        split at h
        · cases h
        · split at h
          · cases h
          · next hlimit =>
              simp only [not_or, Bool.not_eq_false] at hdigits
              exact ⟨⟨hdigits.1, hdigits.2, Nat.le_of_not_lt hlimit⟩, (Except.ok.inj h).symm⟩
  · rintro ⟨⟨hsome, hdigits, hlimit⟩, rfl⟩
    have hbad : ¬(value = "" ∨ value.toList.all isDigit = false) := by
      simp only [not_or, Bool.not_eq_false]
      exact ⟨hsome, hdigits⟩
    have hfits : ¬USIZE_END ≤ decimalValue value := by omega
    rw [if_neg hbad, if_neg hfits, if_neg (Nat.not_lt.2 hlimit)]

theorem bodySize_ok_iff {headers : List (String × String)} {size : Nat} :
    bodySize headers = .ok size ↔
      (∃ host, header headers "host" = some host ∧ goodHost host = true) ∧
        (header headers "transfer-encoding" = none ∧ header headers "expect" = none) ∧
          (∀ value, header headers "content-length" = some value →
            value ≠ "" ∧ value.toList.all isDigit = true ∧ decimalValue value ≤ BODY_LIMIT) ∧
            size = ((header headers "content-length").map decimalValue).getD 0 := by
  have hhost : (header headers "host").any goodHost = true ↔
      ∃ host, header headers "host" = some host ∧ goodHost host = true := by
    cases header headers "host" <;> simp
  rw [← hhost]
  unfold bodySize
  constructor
  · intro h
    split at h
    · cases h
    · next hgood =>
        split at h
        · cases h
        · next hframing =>
            simp only [Bool.not_eq_false] at hgood
            simp only [not_or, Option.not_isSome_iff_eq_none] at hframing
            cases hlength : header headers "content-length" with
            | none =>
                rw [hlength] at h
                exact ⟨hgood, hframing, nofun, (Except.ok.inj h).symm⟩
            | some value =>
                rw [hlength] at h
                rcases contentLength_ok_iff.1 h with ⟨hvalue, hsize⟩
                refine ⟨hgood, hframing, ?_, hsize⟩
                intro other hother
                cases hother
                exact hvalue
  · rintro ⟨hgood, hframing, hvalue, hsize⟩
    have hhosted : ¬(header headers "host").any goodHost = false := by
      rw [hgood]
      exact Bool.noConfusion
    have hframed : ¬((header headers "transfer-encoding").isSome ∨
        (header headers "expect").isSome) := by
      simp [hframing]
    rw [if_neg hhosted, if_neg hframed]
    cases hlength : header headers "content-length" with
    | none =>
        rw [hlength] at hsize
        exact congrArg Except.ok hsize.symm
    | some value =>
        rw [hlength] at hsize
        exact contentLength_ok_iff.2 ⟨hvalue value hlength, hsize⟩

theorem badRequestLine_iff {method path version : List UInt8} :
    badRequestLine method path version = false ↔
      version = VERSION ∧ (method ≠ [] ∧ method.all httpToken = true) ∧
        path.head? = some 47 ∧ ∀ b ∈ path, isGraphic b = true ∧ b ≠ 35 := by
  simp only [badRequestLine, Bool.or_eq_false_iff, decide_eq_false_iff_not, not_not,
    List.isEmpty_eq_false_iff, Bool.not_eq_eq_eq_not, Bool.not_false, List.all_eq_true,
    Bool.and_eq_true, decide_eq_true_iff, and_assoc]

/-- Only the two empty lines at the end are left out. -/
theorem filter_lines {lines : List (List UInt8)} (h : ∀ line ∈ lines, line ≠ []) :
    (lines ++ [[], []]).filter (· ≠ []) = lines := by
  rw [List.filter_append, List.filter_eq_self.2]
  · simp
  · exact fun line hline => by simpa using h line hline

theorem HeaderBlock.splitOn_requestLine (block : HeaderBlock) :
    block.requestLine.splitOn 32 = [block.method, block.path, VERSION] := by
  have hmethod : 32 ∉ block.method := fun hmem =>
    (httpToken_plain 32 (List.all_eq_true.1 block.method_token.2 32 hmem)).2.1 rfl
  have hpath : 32 ∉ block.path := fun hmem =>
    (isGraphic_plain 32 (block.path_graphic.2 32 hmem).1).2 rfl
  have hline : block.requestLine = [32].intercalate [block.method, block.path, VERSION] := by
    simp [HeaderText.requestLine, List.intercalate]
  rw [hline]
  apply List.splitOn_intercalate
  · simp only [List.forall_mem_cons, List.not_mem_nil, false_imp_iff, implies_true, and_true]
    exact ⟨hmethod, hpath, by decide +kernel⟩
  · exact List.cons_ne_nil _ _

theorem HeaderBlock.parseHead_bytes (block : HeaderBlock) :
    parseHead block.bytes = .ok block.head := by
  have hgood : badRequestLine block.method block.path VERSION = false :=
    badRequestLine_iff.2 ⟨rfl, block.method_token, block.path_graphic⟩
  have hfilter : (block.fields.map HeaderField.line ++ [[], []]).filter (· ≠ []) =
      block.fields.map HeaderField.line := by
    apply filter_lines
    intro line hline
    rcases List.mem_map.1 hline with ⟨field, -, rfl⟩
    exact field.line_ne_nil
  have hheaders : (block.fields.map HeaderField.line).foldlM addHeader [] = .ok block.headers :=
    (addHeaders_ok_iff (by simp)).2 ⟨block.fields, rfl, rfl, block.apart⟩
  have hsize : bodySize block.headers = .ok block.size :=
    bodySize_ok_iff.2 ⟨block.host, block.framing, block.length, rfl⟩
  have hchecked : (do
      let headers ← (block.fields.map HeaderField.line).foldlM addHeader []
      let size ← bodySize headers
      return { method := ascii block.method, path := ascii block.path, headers := headers
               size := size : RequestHead }) = Except.ok block.head := by
    rw [hheaders]
    change (bodySize block.headers >>= _) = _
    rw [hsize]
    rfl
  unfold parseHead
  simp only [block.isUtf8_bytes, block.split_bytes, HeaderText.lines, List.cons_append,
    block.splitOn_requestLine, hgood, hfilter, Bool.not_true]
  exact hchecked

/-- The checks accept a block that ends at its first empty line exactly if it is of the grammar. -/
theorem parseHead_ok_iff {data : List UInt8} {head : RequestHead}
    (hends : EndsFirst CRLFCRLF data) (hshort : data.length ≤ HEADER_LIMIT) :
    parseHead data = .ok head ↔ ∃ block : HeaderBlock, block.bytes = data ∧ block.head = head := by
  constructor
  · intro h
    rcases Lines.split_of_endsFirst (by decide) hends with ⟨first, lines, hsplit, hfull, hdata⟩
    unfold parseHead at h
    split at h
    · cases h
    · rw [hsplit] at h
      dsimp only [List.cons_append] at h
      split at h
      · next method path version hparts =>
          split at h
          · cases h
          · next hgood =>
              rw [filter_lines hfull] at h
              rcases Except.ok_of_bind h with ⟨headers, hheaders, h⟩
              rcases Except.ok_of_bind h with ⟨size, hsize, h⟩
              obtain rfl := Except.ok.inj h
              rcases (addHeaders_ok_iff (by simp)).1 hheaders with ⟨fields, rfl, rfl, hapart⟩
              rcases badRequestLine_iff.1 (Bool.eq_false_iff.2 hgood) with ⟨rfl, hmethod, hpath⟩
              rcases bodySize_ok_iff.1 hsize with ⟨hhost, hframing, hlength, rfl⟩
              have hfirst : first = method ++ 32 :: (path ++ 32 :: VERSION) := by
                calc first = [32].intercalate (first.splitOn 32) :=
                      (List.intercalate_splitOn 32).symm
                  _ = [32].intercalate [method, path, VERSION] := by rw [hparts]
                  _ = method ++ 32 :: (path ++ 32 :: VERSION) := by simp [List.intercalate]
              have hbytes : HeaderText.bytes ⟨method, path, fields⟩ = data := by
                rw [hdata, hfirst]
                rfl
              exact ⟨⟨⟨method, path, fields⟩, hmethod, hpath, hapart, hhost, hframing, hlength,
                hbytes ▸ hshort⟩, hbytes, rfl⟩
      · cases h
  · rintro ⟨block, rfl, rfl⟩
    exact block.parseHead_bytes

/-! ## The reads -/

/-- What a read through `readPiece` returns and leaves. -/
theorem readPiece_cases {size : Nat} (hsize : 0 < size) (stream : Connection) :
    (stream.rest = [] ∧ readPiece size stream = (.error stream.ending.reply, stream)) ∨
      ∃ piece stream', readPiece size stream = (.ok piece, stream') ∧ piece ≠ [] ∧
        piece.length ≤ size ∧ stream.rest = piece ++ stream'.rest ∧
          stream'.ending = stream.ending := by
  have hcases := stream.read_cases hsize
  unfold readPiece
  rcases hread : stream.read size with ⟨result, stream'⟩
  simp only [hread] at hcases
  cases hcases with
  | ended hrest => exact Or.inl ⟨hrest, rfl⟩
  | @piece piece stream' hsome hlength hrest hending =>
      exact Or.inr ⟨piece, stream', rfl, hsome, hlength, hrest, hending⟩

/-- A read with room for one byte takes one. -/
theorem readByte_cases (stream : Connection) :
    (stream.rest = [] ∧ readPiece 1 stream = (.error stream.ending.reply, stream)) ∨
      ∃ b stream', readPiece 1 stream = (.ok [b], stream') ∧ stream.rest = b :: stream'.rest ∧
        stream'.ending = stream.ending := by
  rcases readPiece_cases Nat.one_pos stream with
    hover | ⟨piece, stream', h, hsome, hle, hrest, hend⟩
  · exact Or.inl hover
  · rcases List.exists_cons_of_ne_nil hsome with ⟨b, more, rfl⟩
    obtain rfl : more = [] := by simpa using hle
    exact Or.inr ⟨b, stream', h, hrest, hend⟩

/-- The bytes that are taken end at the first empty line. -/
theorem readHead_ok {left : Nat} {data block : List UInt8} {stream stream' : Connection}
    (h : readHead left data stream = (.ok block, stream')) :
    ∃ taken, stream.rest = taken ++ stream'.rest ∧ block = data ++ taken ∧ taken.length ≤ left ∧
      CRLFCRLF <:+ block ∧
        ∀ front, front <+: taken → CRLFCRLF <:+ data ++ front → front = taken := by
  induction left generalizing data stream with
  | zero =>
      unfold readHead at h
      split at h
      · next hends =>
          cases h
          refine ⟨[], rfl, by simp, Nat.le_refl 0, hends, ?_⟩
          exact fun front hfront _ => List.prefix_nil.1 hfront
      · cases h
  | succ left ih =>
      unfold readHead at h
      split at h
      · next hends =>
          cases h
          refine ⟨[], rfl, by simp, Nat.zero_le _, hends, ?_⟩
          exact fun front hfront _ => List.prefix_nil.1 hfront
      · next hopen =>
          rcases readByte_cases stream with ⟨-, hread⟩ | ⟨b, middle, hread, hrest, -⟩
          · simp only [hread] at h
            cases h
          · simp only [hread] at h
            rcases ih h with ⟨taken, htaken, rfl, hlength, hends, hfirst⟩
            refine ⟨b :: taken, by rw [hrest, htaken]; rfl, by simp, Nat.succ_le_succ hlength,
              hends, ?_⟩
            intro front hfront hmark
            cases front with
            | nil => exact absurd (by simpa using hmark) hopen
            | cons c front =>
                rcases List.cons_prefix_cons.1 hfront with ⟨rfl, htail⟩
                exact congrArg _ (hfirst front htail (by simpa using hmark))

/-- A stream that starts with bytes that end at the first empty line, within the limit, loses just
these bytes. -/
theorem readHead_of_endsFirst {left : Nat} {data taken more : List UInt8} {stream : Connection}
    (hrest : stream.rest = taken ++ more) (hlength : taken.length ≤ left)
    (hends : CRLFCRLF <:+ data ++ taken)
    (hfirst : ∀ front, front <+: taken → CRLFCRLF <:+ data ++ front → front = taken) :
    ∃ stream', readHead left data stream = (.ok (data ++ taken), stream') ∧
      stream'.rest = more := by
  induction left generalizing data taken stream with
  | zero =>
      obtain rfl : taken = [] := by simpa using hlength
      refine ⟨stream, ?_, hrest⟩
      unfold readHead
      rw [List.append_nil] at hends ⊢
      rw [if_pos hends]
  | succ left ih =>
      unfold readHead
      cases taken with
      | nil =>
          refine ⟨stream, ?_, hrest⟩
          rw [List.append_nil] at hends ⊢
          rw [if_pos hends]
      | cons b taken =>
          have hopen : ¬CRLFCRLF <:+ data := by
            intro hmark
            have hearly := hfirst [] List.nil_prefix (by simpa using hmark)
            cases hearly
          rw [if_neg hopen]
          rcases readByte_cases stream with ⟨hover, -⟩ | ⟨c, middle, hread, hmiddle, -⟩
          · rw [hover] at hrest
            cases hrest
          · obtain ⟨rfl, htaken⟩ := List.cons.inj (hmiddle.symm.trans hrest)
            have hends' : CRLFCRLF <:+ (data ++ [c]) ++ taken := by simpa using hends
            have hfirst' : ∀ front, front <+: taken → CRLFCRLF <:+ (data ++ [c]) ++ front →
                front = taken := by
              intro front hfront hmark
              have hwhole := hfirst (c :: front) (List.cons_prefix_cons.2 ⟨rfl, hfront⟩)
                (by simpa using hmark)
              exact (List.cons.inj hwhole).2
            have hrun := ih htaken (Nat.le_of_succ_le_succ hlength) hends' hfirst'
            simpa [hread] using hrun

/-- The block is read alike however its bytes are cut. -/
theorem readHead_alike (left : Nat) (data : List UInt8) {stream other : Connection}
    (h : stream.Alike other) :
    (readHead left data stream).1 = (readHead left data other).1 ∧
      (readHead left data stream).2.Alike (readHead left data other).2 := by
  induction left generalizing data stream other with
  | zero =>
      unfold readHead
      split
      · exact ⟨rfl, h⟩
      · exact ⟨rfl, h⟩
  | succ left ih =>
      unfold readHead
      split
      · exact ⟨rfl, h⟩
      · rcases readByte_cases stream with ⟨hover, hread⟩ | ⟨b, middle, hread, hrest, hending⟩
        · rcases readByte_cases other with ⟨-, hread'⟩ | ⟨c, middle', -, hrest', -⟩
          · simp only [hread, hread', h.ending]
            exact ⟨trivial, h⟩
          · rw [← h.rest, hover] at hrest'
            cases hrest'
        · rcases readByte_cases other with ⟨hover', -⟩ | ⟨c, middle', hread', hrest', hending'⟩
          · rw [h.rest, hover'] at hrest
            cases hrest
          · obtain ⟨rfl, hmiddle⟩ := List.cons.inj (hrest.symm.trans (h.rest.trans hrest'))
            simp only [hread, hread']
            exact ih _ ⟨hmiddle, hending.trans (h.ending.trans hending'.symm)⟩

/-- The body is the next bytes, as many as are missing, or there are too few. -/
inductive BodyRead (size : Nat) (body : List UInt8) (stream : Connection) :
    Except HttpReply (List UInt8) × Connection → Prop
  | whole {stream' : Connection} {taken : List UInt8} (hsize : body.length + taken.length = size)
      (hrest : stream.rest = taken ++ stream'.rest) (hending : stream'.ending = stream.ending) :
      BodyRead size body stream (.ok (body ++ taken), stream')
  | short {stream' : Connection} (hsize : body.length + stream.rest.length < size)
      (hrest : stream'.rest = []) (hending : stream'.ending = stream.ending) :
      BodyRead size body stream (.error stream.ending.reply, stream')

theorem BodyRead.full {size : Nat} {body : List UInt8} {stream : Connection}
    (h : body.length = size) : BodyRead size body stream (.ok body, stream) := by
  have hwhole : BodyRead size body stream (.ok (body ++ []), stream) := .whole (by simpa) rfl rfl
  simpa using hwhole

theorem readBody_read {size rounds : Nat} {body : List UInt8} (stream : Connection)
    (hsize : body.length ≤ size) (hrounds : size ≤ body.length + rounds) :
    BodyRead size body stream (readBody size rounds body stream) := by
  induction rounds generalizing body stream with
  | zero => exact .full (by omega)
  | succ rounds ih =>
      unfold readBody
      split
      · next hmissing =>
          have hroom : 0 < min (size - body.length) 4096 := by omega
          rcases readPiece_cases hroom stream with
            ⟨hover, hread⟩ | ⟨piece, middle, hread, hsome, hle, hrest, hending⟩
          · simp only [hread]
            exact .short (by simpa [hover] using hmissing) hover rfl
          · simp only [hread]
            have hpiece := List.length_pos_of_ne_nil hsome
            have hsize' : (body ++ piece).length ≤ size := by simp; omega
            have hrounds' : size ≤ (body ++ piece).length + rounds := by simp; omega
            have hnext := ih middle hsize' hrounds'
            generalize readBody size rounds (body ++ piece) middle = result at hnext ⊢
            cases hnext with
            | @whole stream' taken hsize' hrest' hending' =>
                rw [List.append_assoc]
                refine .whole ?_ ?_ (hending'.trans hending)
                · simpa [Nat.add_assoc] using hsize'
                · rw [hrest, hrest', List.append_assoc]
            | short hsize' hrest' hending' =>
                rw [hending]
                refine .short ?_ hrest' (hending'.trans hending)
                simpa [hrest, Nat.add_assoc] using hsize'
      · exact .full (by omega)

theorem readBody_whole (size : Nat) (stream : Connection) :
    BodyRead size [] stream (readBody size size [] stream) :=
  readBody_read stream (Nat.zero_le size) (by simp)

/-- A result of the body is the only one for these bytes and this end. -/
theorem BodyRead.unique {size : Nat} {body : List UInt8} {stream other : Connection}
    {result result' : Except HttpReply (List UInt8) × Connection} (h : stream.Alike other)
    (hread : BodyRead size body stream result) (hread' : BodyRead size body other result') :
    result.1 = result'.1 ∧ result.2.Alike result'.2 := by
  cases hread with
  | whole hsize hrest hending =>
      cases hread' with
      | whole hsize' hrest' hending' =>
          have hbytes := hrest.symm.trans (h.rest.trans hrest')
          obtain ⟨rfl, hmore⟩ := List.append_inj hbytes (by omega)
          exact ⟨rfl, hmore, hending.trans (h.ending.trans hending'.symm)⟩
      | short hsize' _ _ =>
          rw [← h.rest, hrest, List.length_append] at hsize'
          omega
  | short hsize hrest hending =>
      cases hread' with
      | whole hsize' hrest' _ =>
          rw [h.rest, hrest', List.length_append] at hsize
          omega
      | short _ hrest' hending' =>
          refine ⟨congrArg (fun silence => Except.error silence.reply) h.ending, ?_⟩
          exact ⟨hrest.trans hrest'.symm, hending.trans (h.ending.trans hending'.symm)⟩

/-! ## The request -/

theorem readRequest_ok {stream stream' : Connection} {request : HttpRequest}
    (h : readRequest stream = (.ok request, stream')) :
    ∃ (block : HeaderBlock) (body : List UInt8),
      stream.rest = block.bytes ++ (body ++ stream'.rest) ∧ body.length = block.size ∧
        request = block.request body := by
  unfold readRequest at h
  split at h
  · cases h
  · next data middle hhead =>
      rcases readHead_ok hhead with ⟨taken, hrest, hdata, hshort, hends, hfirst⟩
      obtain rfl : data = taken := hdata
      split at h
      · cases h
      · next head hparse =>
          rcases (parseHead_ok_iff ⟨hends, hfirst⟩ hshort).1 hparse with ⟨block, rfl, rfl⟩
          have hbody := readBody_whole block.head.size middle
          split at h
          · cases h
          · next body last hread =>
              cases h
              rw [hread] at hbody
              cases hbody with
              | @whole _ taken hsize hrest' _ =>
                  have hlength : taken.length = block.size := (Nat.zero_add _).symm.trans hsize
                  exact ⟨block, taken, by rw [hrest, hrest'], hlength, rfl⟩

/-- A request of the grammar is accepted, and nothing behind it is read. -/
theorem readRequest_of_block {stream : Connection} {block : HeaderBlock} {body more : List UInt8}
    (hrest : stream.rest = block.bytes ++ (body ++ more)) (hbody : body.length = block.size) :
    ∃ stream', readRequest stream = (.ok (block.request body), stream') ∧ stream'.rest = more := by
  have hends : EndsFirst CRLFCRLF ([] ++ block.bytes) := block.endsFirst
  rcases readHead_of_endsFirst hrest block.short hends.1 hends.2 with ⟨middle, hhead, hmiddle⟩
  have hread := readBody_whole block.head.size middle
  have hsize : block.head.size = body.length := hbody.symm
  unfold readRequest
  rw [List.nil_append] at hhead
  simp only [hhead, block.parseHead_bytes]
  generalize readBody block.head.size block.head.size [] middle = result at hread ⊢
  cases hread with
  | @whole stream' taken htaken hrest' hending =>
      have hbytes := hmiddle.symm.trans hrest'
      obtain ⟨rfl, hmore⟩ := List.append_inj hbytes (by simpa [hsize] using htaken.symm)
      exact ⟨stream', rfl, hmore.symm⟩
  | short hshort _ _ =>
      rw [hmiddle, List.length_append] at hshort
      simp only [List.length_nil] at hshort
      omega

theorem readRequest_alike {stream other : Connection} (h : stream.Alike other) :
    (readRequest stream).1 = (readRequest other).1 ∧
      (readRequest stream).2.Alike (readRequest other).2 := by
  have hhead := readHead_alike HEADER_LIMIT [] h
  unfold readRequest
  generalize readHead HEADER_LIMIT [] stream = first at hhead ⊢
  generalize readHead HEADER_LIMIT [] other = second at hhead ⊢
  rcases first with ⟨result, middle⟩
  rcases second with ⟨result', middle'⟩
  obtain ⟨rfl, hmiddle⟩ : result = result' ∧ middle.Alike middle' := hhead
  cases result with
  | error reply => exact ⟨rfl, hmiddle⟩
  | ok data =>
      dsimp only
      cases parseHead data with
      | error reply => exact ⟨rfl, hmiddle⟩
      | ok head =>
          have hsame := (readBody_whole head.size middle).unique hmiddle
            (readBody_whole head.size middle')
          dsimp only
          generalize readBody head.size head.size [] middle = first at hsame ⊢
          generalize readBody head.size head.size [] middle' = second at hsame ⊢
          rcases first with ⟨result, last⟩
          rcases second with ⟨result', last'⟩
          obtain ⟨rfl, hlast⟩ : result = result' ∧ last.Alike last' := hsame
          cases result with
          | error reply => exact ⟨rfl, hlast⟩
          | ok body => exact ⟨rfl, hlast⟩

/-- The parser accepts just the requests of the grammar, takes just their bytes, and answers alike
however they were cut. -/
theorem parser_is_exact (stream : Connection) :
    (∀ request more, (∃ stream', readRequest stream = (.ok request, stream') ∧
        stream'.rest = more) ↔
      ∃ (block : HeaderBlock) (body : List UInt8),
        stream.rest = block.bytes ++ (body ++ more) ∧ EndsFirst CRLFCRLF block.bytes ∧
          body.length = block.size ∧ request = block.request body) ∧
      ∀ other : Connection, stream.Alike other →
        (readRequest stream).1 = (readRequest other).1 ∧
          (readRequest stream).2.Alike (readRequest other).2 := by
  refine ⟨?_, fun other h => readRequest_alike h⟩
  intro request more
  constructor
  · rintro ⟨stream', hread, rfl⟩
    rcases readRequest_ok hread with ⟨block, body, hrest, hbody, hrequest⟩
    exact ⟨block, body, hrest, block.endsFirst, hbody, hrequest⟩
  · rintro ⟨block, body, hrest, -, hbody, rfl⟩
    exact readRequest_of_block hrest hbody

/-- A request of two lines, in two pieces, with another one behind it. -/
def statusArrivals : Connection where
  segments :=
    ["GET /status HT", "TP/1.1\r\nHOST: localhost \r\n\r\nGET"].map fun piece =>
      piece.toList.map fun c => UInt8.ofNat c.toNat
  nonempty := by decide
  ending := .closed

example : (readRequest statusArrivals).1 =
    .ok { method := "GET", path := "/status", headers := [("host", "localhost")], body := [] } := by
  decide +kernel

end DsspBot
