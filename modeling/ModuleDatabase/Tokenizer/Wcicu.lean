import Mathlib.Logic.Function.Basic
import ModuleDatabase.Tokenizer.Icu

namespace ModuleDatabase
namespace Tokenizer

/-!
# `fts5WcicuTokenize`

The function converts the text to UTF-16, noting for every offset of the
buffer the byte offset that it comes from, and then drives a break iterator
over the buffer.  Ideographic segments are handed out one code point at a
time, from the range `ideo_start .. ideo_end` of the cursor; every other
segment is handed out whole, or skipped.

The loops of the source are bounded by fuel; running out of it is the result
`none`, which is not a result of the source.  Offsets that the source never
writes keep what the memory held, a parameter.  The source initialises
`ideo_start` and `ideo_end` with -1, which it never reads, since `ideo_state`
is -1 as well; they are 0 here.  The results of the calls of `output_token`
and `xToken` are recorded in the order in which they are made.
-/

def SQLITE_OK : Int := 0
def SQLITE_ERROR : Int := 1
def SQLITE_NOMEM : Int := 7
def SQLITE_DONE : Int := 101

def UN_OUTPUT_TOKEN : Int := -1

/-- `ROUND4`: the next multiple of four. -/
def ROUND4 (n : Nat) : Nat := (n + 3) / 4 * 4

def MINIMAL_OUT_BUFFER_LENGTH : Nat := 512

/-- One call of `xToken`, with what it returned. -/
structure TokenCall where
  pToken : List UInt8
  nToken : Nat
  iStart : Int
  iEnd : Int
  rc : Int
  deriving DecidableEq, Repr

/-- What a call of the tokenizer depends on besides its text. -/
structure Environment where
  icu : Icu
  /-- Whether the allocation with this number succeeds. -/
  allocates : Nat → Bool
  /-- What the memory of `in_offset` holds before it is written. -/
  garbage : Nat → Int
  /-- The callback: its code may depend on all earlier calls. -/
  xToken : List TokenCall → List UInt8 → Nat → Int → Int → Int

/-- `mm_cursor_t`, and the number of allocations made so far. -/
structure MmCursor where
  iter : UBreakIterator
  in_buffer : List UChar
  in_offset : Nat → Int
  out_buffer : Option (List UInt8)
  out_length : Nat
  token_count : Nat
  ideo_start : Nat
  ideo_end : Nat
  ideo_state : Int
  allocations : Nat

/-! ## Conversion to UTF-16 -/

/-- The variables of the conversion loop; `i_output` is the length of the
buffer. -/
structure Conversion where
  i_input : Nat
  in_buffer : List UChar
  in_offset : Nat → Int

/-- The conversion loop.  The flag is `is_error`. -/
def convert (icu : Icu) (pText : List UInt8) (nText dst_len : Nat) :
    Nat → Conversion → Option (Conversion × Bool)
  | fuel, conversion =>
    if nText ≤ conversion.i_input then some (conversion, false)
    else
      match fuel with
      | 0 => none
      | fuel + 1 =>
        let (c, i_input) := U8_NEXT icu pText conversion.i_input nText
        if c = 0 then some ({ conversion with i_input := i_input }, false)
        else
          let c := if c < 0 then 0x20 else c.toNat
          match U16_APPEND conversion.in_buffer dst_len c with
          | none => some ({ conversion with i_input := i_input }, true)
          | some in_buffer =>
            convert icu pText nText dst_len fuel
              { i_input := i_input
                in_buffer := in_buffer
                in_offset := Function.update conversion.in_offset in_buffer.length i_input }

/-! ## Tokens of the cursor -/

/-- `find_splited_ideo_token`: the next code point of the pending range. -/
def find_splited_ideo_token (cur : MmCursor) : Option (Nat × Nat) × MmCursor :=
  if cur.ideo_state < 0 then (none, cur)
  else if cur.ideo_start = cur.ideo_end then (none, { cur with ideo_state := -1 })
  else
    let s := cur.ideo_start
    let c := cur.in_buffer.getD s 0
    let e := if U16_IS_LEAD c && 2 ≤ cur.ideo_end - s then s + 2 else s + 1
    (some (s, e), { cur with ideo_start := e })

/-- What a successful `output_token` stores through its pointers.  The text
itself is in `out_buffer`. -/
structure Output where
  nBytes : Nat
  iStartOffset : Int
  iEndOffset : Int
  iPosition : Nat

/-- The output buffer is allocated for the first token. -/
def MmCursor.reserve (cur : MmCursor) : MmCursor :=
  if cur.out_buffer.isNone then
    { cur with
      out_buffer := some []
      out_length := MINIMAL_OUT_BUFFER_LENGTH
      allocations := cur.allocations + 1 }
  else cur

/-- It is enlarged for a token that does not fit. -/
def MmCursor.enlarge (cur : MmCursor) (result : Nat) : MmCursor :=
  if cur.out_length < result then
    { cur with
      out_length := result
      allocations := cur.allocations + 1 }
  else cur

/-- The buffer after `bytes` have been stored at its start. -/
def stored (bytes buffer : List UInt8) : List UInt8 := bytes ++ buffer.drop bytes.length

/-- `output_token`.  A failure is the code that it returns.  The output buffer
is listed up to its last byte that a caller can read: behind the bytes of the
last token that was output it is not. -/
def output_token (env : Environment) (cur : MmCursor) (start stop : Nat) :
    MmCursor × Except Int Output :=
  let length := min (stop - start) 256
  match env.icu.unorm_normalize ((cur.in_buffer.drop start).take length) with
  | none => (cur, .error SQLITE_ERROR)
  | some buf1 =>
    if 256 < buf1.length then (cur, .error SQLITE_ERROR)
    else
      match env.icu.u_strFoldCase buf1 with
      | none => (cur, .error SQLITE_ERROR)
      | some buf2 =>
        if 256 < buf2.length then (cur, .error SQLITE_ERROR)
        else if cur.out_buffer.isNone && !env.allocates cur.allocations then
          ({ cur with allocations := cur.allocations + 1 }, .error SQLITE_NOMEM)
        else
          let cur := cur.reserve
          match env.icu.u_strToUTF8 buf2 with
          | none =>
            -- the bytes of the last token stay behind those that the failing call has stored
            ({ cur with
                out_buffer :=
                  cur.out_buffer.map (stored (env.icu.u_strToUTF8_stored buf2 cur.out_length)) },
              .error SQLITE_ERROR)
          | some bytes =>
            if cur.out_length < bytes.length && !env.allocates cur.allocations then
              -- so they do when the buffer is too short and cannot be enlarged
              ({ cur with
                  out_buffer :=
                    cur.out_buffer.map (stored (env.icu.u_strToUTF8_stored buf2 cur.out_length))
                  allocations := cur.allocations + 1 },
                .error SQLITE_NOMEM)
            else
              let cur := cur.enlarge bytes.length
              ({ cur with
                  out_buffer := some bytes
                  token_count := cur.token_count + 1 },
                .ok ⟨bytes.length, cur.in_offset start, cur.in_offset stop, cur.token_count + 1⟩)

/-! ## The main loop -/

/-- The local variables of the main loop.  `pToken` is null until it points
to `out_buffer`; `outputs` are the codes that `output_token` has returned. -/
structure Frame where
  cur : MmCursor
  start : Nat
  stop : Nat
  pToken : Option Unit
  nBytes : Nat
  iStartOffset : Int
  iEndOffset : Int
  iPosition : Nat
  rc : Int
  outputs : List Int
  calls : List TokenCall

/-- A call of `output_token` on `start .. stop`, with its pointers. -/
def emit (env : Environment) (frame : Frame) : Frame × Int :=
  match output_token env frame.cur frame.start frame.stop with
  | (cur, .error code) =>
    ({ frame with cur := cur, outputs := frame.outputs ++ [code] }, code)
  | (cur, .ok output) =>
    ({ frame with
        cur := cur
        pToken := some ()
        nBytes := output.nBytes
        iStartOffset := output.iStartOffset
        iEndOffset := output.iEndOffset
        iPosition := output.iPosition
        outputs := frame.outputs ++ [SQLITE_OK] }, SQLITE_OK)

/-- The call of `xToken` at the end of an iteration. -/
def deliver (env : Environment) (frame : Frame) : Frame :=
  let text := match frame.pToken with
    | none => []
    | some () => (frame.cur.out_buffer.getD []).take frame.nBytes
  let rc := env.xToken frame.calls text frame.nBytes frame.iStartOffset frame.iEndOffset
  { frame with
    rc := rc
    calls := frame.calls ++ [⟨text, frame.nBytes, frame.iStartOffset, frame.iEndOffset, rc⟩] }

/-- `token_type >= UBRK_WORD_NONE && token_type < UBRK_WORD_NONE_LIMIT`. -/
def isNone (token_type : Int) : Bool :=
  UBRK_WORD_NONE ≤ token_type && token_type < UBRK_WORD_NONE_LIMIT

/-- Whether the status is in the ideographic range. -/
def isIdeo (token_type : Int) : Bool :=
  UBRK_WORD_IDEO ≤ token_type && token_type < UBRK_WORD_IDEO_LIMIT

/-- `c2 == '*' || c2 == 0x200b || u_isspace(c2)`. -/
def ignorable (icu : Icu) (c2 : UChar) : Bool :=
  c2 == 0x2a || c2 == 0x200b || icu.u_isspace c2

/-- The first inner loop: the next segment that is not skipped, as
`(start, end, token_type)`, and the iterator behind it.  `none` is
`UBRK_DONE`. -/
def findToken (icu : Icu) (in_buffer : List UChar) (passed : List (Nat × Int)) (start : Nat) :
    List (Nat × Int) → Option ((Nat × Nat × Int) × UBreakIterator)
  | [] => none
  | (boundary, token_type) :: ahead =>
    if isNone token_type && ignorable icu (in_buffer.getD start 0) then
      findToken icu in_buffer ((boundary, token_type) :: passed) boundary ahead
    else
      some ((start, boundary, token_type), ⟨(boundary, token_type) :: passed, ahead⟩)

/-- The second inner loop: the end of the run of ideographic segments, and
the iterator where the loop leaves it. -/
def extendIdeo (passed : List (Nat × Int)) (stop : Nat) :
    List (Nat × Int) → Nat × UBreakIterator
  | [] => (stop, ⟨passed, []⟩)
  | (boundary, token_type) :: ahead =>
    if isIdeo token_type then
      extendIdeo ((boundary, token_type) :: passed) boundary ahead
    else (stop, ⟨(boundary, token_type) :: passed, ahead⟩)

/-- `process pending ideographic token`. -/
def processPending (env : Environment) (frame : Frame) : Frame × Int :=
  match find_splited_ideo_token frame.cur with
  | (none, cur) => ({ frame with cur := cur }, UN_OUTPUT_TOKEN)
  | (some (start, stop), cur) =>
    emit env { frame with cur := cur, start := start, stop := stop }

/-- The next segment; one that is not ideographic is output at once. -/
def processSegment (env : Environment) (frame : Frame) : Option (Frame × Int) :=
  let iter := frame.cur.iter
  match findToken env.icu frame.cur.in_buffer iter.passed iter.current iter.ahead with
  | none => none
  | some ((start, stop, token_type), iter) =>
    let frame := { frame with cur := { frame.cur with iter := iter }, start := start, stop := stop }
    if token_type < UBRK_WORD_IDEO || UBRK_WORD_IDEO_LIMIT ≤ token_type then
      some (emit env frame)
    else some (frame, UN_OUTPUT_TOKEN)

/-- The look-ahead over a run of ideographic segments, which are then pending. -/
def lookAhead (frame : Frame) : MmCursor :=
  let (stop, iter) := extendIdeo frame.cur.iter.passed frame.stop frame.cur.iter.ahead
  { frame.cur with
    iter := iter.isBoundary stop
    ideo_start := frame.start
    ideo_end := stop
    ideo_state := 0 }

/-- The look-ahead, and the output of the first code point. -/
def processIdeo (env : Environment) (frame : Frame) : Frame :=
  match find_splited_ideo_token (lookAhead frame) with
  | (none, cur) => { frame with cur := cur, stop := cur.ideo_end }
  | (some (start, stop), cur) =>
    (emit env { frame with cur := cur, start := start, stop := stop }).1

/-- One iteration of the main loop; `none` is the return of `SQLITE_DONE`. -/
def iterate (env : Environment) (frame : Frame) : Option Frame :=
  let (frame, flag) := processPending env frame
  match (if flag = UN_OUTPUT_TOKEN then processSegment env frame else some (frame, flag)) with
  | none => none
  | some (frame, flag) =>
    some (deliver env (if flag = UN_OUTPUT_TOKEN then processIdeo env frame else frame))

/-- What a call of the tokenizer leaves behind. -/
structure Result where
  rc : Int
  outputs : List Int
  calls : List TokenCall
  deriving DecidableEq, Repr

/-- The main loop and the lines behind it. -/
def mainLoop (env : Environment) (nText : Nat) : Nat → Frame → Option Result
  | fuel, frame =>
    if nText ≤ frame.iEndOffset then
      some ⟨if frame.rc = SQLITE_DONE then SQLITE_OK else frame.rc, frame.outputs, frame.calls⟩
    else
      match fuel with
      | 0 => none
      | fuel + 1 =>
        match iterate env frame with
        | none => some ⟨SQLITE_DONE, frame.outputs, frame.calls⟩
        | some next => mainLoop env nText fuel next

/-- `strlen`. -/
def strlen (pText : List UInt8) : Nat := (pText.takeWhile fun byte => byte != 0).length

/-- The cursor and the variables as they are in front of the main loop. -/
def Frame.initial (boundaries : List (Nat × Int)) (conversion : Conversion) : Frame where
  cur :=
    { iter := UBreakIterator.first boundaries
      in_buffer := conversion.in_buffer
      in_offset := conversion.in_offset
      out_buffer := none
      out_length := 0
      token_count := 0
      ideo_start := 0
      ideo_end := 0
      ideo_state := -1
      allocations := 1 }
  start := 0
  stop := 0
  pToken := none
  nBytes := 0
  iStartOffset := 0
  iEndOffset := 0
  iPosition := 0
  rc := SQLITE_OK
  outputs := []
  calls := []

/-- `fts5WcicuTokenize(pTokenizer, pCtx, flags, pText, nText, xToken)`. -/
def fts5WcicuTokenize (env : Environment) (pText : List UInt8) (nText : Int) (fuel : Nat) :
    Option Result :=
  let nText := if nText < 0 then strlen pText else nText.toNat
  let dst_len := ROUND4 (nText + 1)
  if !env.allocates 0 then some ⟨SQLITE_NOMEM, [], []⟩
  else
    match convert env.icu pText nText dst_len fuel
        ⟨0, [], Function.update env.garbage 0 0⟩ with
    | none => none
    | some (_, true) => some ⟨SQLITE_ERROR, [], []⟩
    | some (conversion, false) =>
      match env.icu.ubrk_open conversion.in_buffer with
      | none => some ⟨SQLITE_ERROR, [], []⟩
      | some boundaries => mainLoop env nText fuel (Frame.initial boundaries conversion)

end Tokenizer
end ModuleDatabase
