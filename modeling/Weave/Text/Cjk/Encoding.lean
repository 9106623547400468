import Weave.Text.Cjk.Chinese
import Weave.Text.Cjk.Japanese
import Weave.Text.Cjk.Korean
import Weave.Text.Cjk.Iso2022

/-! # The multibyte encodings of Chinese, Japanese and Korean

Each encoding has names, the first of which it is reported by, and a step that reads one
sequence. HZ and the ISO-2022 encodings remember what is shifted in from one sequence to
the next, and across decoding calls; the others remember nothing.
-/

namespace Weave.Cjk

/-- The multibyte encodings. -/
inductive Encoding where
  | gb2312
  | gbk
  | gb18030
  | hz
  | big5
  | cp950
  | big5hkscs
  | shiftJis
  | cp932
  | eucJp
  | eucJis2004
  | eucJisx0213
  | shiftJis2004
  | shiftJisx0213
  | eucKr
  | cp949
  | johab
  | iso2022 (v : Iso2022)
deriving DecidableEq, Repr

/-- What a decoder remembers between sequences. -/
inductive Shift where
  | none
  | hz (gb : Bool)
  | iso2022 (s : Iso2022State)
deriving DecidableEq, Repr

def Step.mapState {σ τ : Type} (f : σ → τ) : Step σ → Step τ
  | .chars cs n s => .chars cs n (f s)
  | .cut => .cut
  | .invalid n => .invalid n
  | .internal => .internal

namespace Encoding

/-- The names of an encoding: the name it is reported by, then its aliases. -/
def names : Encoding → List String
  | .gb2312 => ["gb2312", "chinese", "csiso58gb231280", "euc_cn", "euccn", "eucgb2312_cn",
      "gb2312_1980", "gb2312_80", "iso_ir_58", "x_mac_simp_chinese"]
  | .gbk => ["gbk", "936", "cp936", "ms936"]
  | .gb18030 => ["gb18030", "gb18030_2000"]
  | .hz => ["hz", "hz_gb", "hz_gb_2312", "hzgb"]
  | .big5 => ["big5", "big5_tw", "csbig5", "x_mac_trad_chinese"]
  | .cp950 => ["cp950", "950", "ms950"]
  | .big5hkscs => ["big5hkscs", "big5_hkscs", "hkscs"]
  | .shiftJis => ["shift_jis", "csshiftjis", "s_jis", "shiftjis", "sjis", "x_mac_japanese"]
  | .cp932 => ["cp932", "932", "ms932", "ms_kanji", "mskanji"]
  | .eucJp => ["euc_jp", "eucjp", "u_jis", "ujis"]
  | .eucJis2004 => ["euc_jis_2004", "euc_jis2004", "eucjis2004", "jisx0213"]
  | .eucJisx0213 => ["euc_jisx0213", "eucjisx0213"]
  | .shiftJis2004 => ["shift_jis_2004", "s_jis_2004", "shiftjis2004", "sjis_2004"]
  | .shiftJisx0213 => ["shift_jisx0213", "s_jisx0213", "shiftjisx0213", "sjisx0213"]
  | .eucKr => ["euc_kr", "euckr", "korean", "ks_c_5601", "ks_c_5601_1987", "ks_x_1001",
      "ksc5601", "ksx1001", "x_mac_korean"]
  | .cp949 => ["cp949", "949", "ms949", "uhc"]
  | .johab => ["johab", "cp1361", "ms1361"]
  | .iso2022 .jp => ["iso2022_jp", "csiso2022jp", "iso2022jp", "iso_2022_jp"]
  | .iso2022 .jp1 => ["iso2022_jp_1", "iso2022jp_1", "iso_2022_jp_1"]
  | .iso2022 .jp2 => ["iso2022_jp_2", "iso2022jp_2", "iso_2022_jp_2"]
  | .iso2022 .jp2004 => ["iso2022_jp_2004", "iso2022jp_2004", "iso_2022_jp_2004"]
  | .iso2022 .jp3 => ["iso2022_jp_3", "iso2022jp_3", "iso_2022_jp_3"]
  | .iso2022 .jpExt => ["iso2022_jp_ext", "iso2022jp_ext", "iso_2022_jp_ext"]
  | .iso2022 .kr => ["iso2022_kr", "csiso2022kr", "iso2022kr", "iso_2022_kr"]

def name (e : Encoding) : String :=
  e.names.headD ""

def all : List Encoding :=
  [.gb2312, .gbk, .gb18030, .hz, .big5, .cp950, .big5hkscs, .shiftJis, .cp932, .eucJp,
   .eucJis2004, .eucJisx0213, .shiftJis2004, .shiftJisx0213, .eucKr, .cp949, .johab,
   .iso2022 .jp, .iso2022 .jp1, .iso2022 .jp2, .iso2022 .jp2004, .iso2022 .jp3,
   .iso2022 .jpExt, .iso2022 .kr]

def start : Encoding → Shift
  | .hz => .hz false
  | .iso2022 _ => .iso2022 {}
  | _ => .none

/-- The reader of one sequence of an encoding that remembers nothing. -/
def reader : Encoding → List UInt8 → Step Unit
  | .gb2312 => readGb2312
  | .gbk => readGbk
  | .gb18030 => readGb18030
  | .big5 => readBig5
  | .cp950 => readCp950
  | .big5hkscs => readHkscs
  | .shiftJis => readShiftJis
  | .cp932 => readCp932
  | .eucJp => readEucJp
  | .eucJis2004 => readEucJis2004 false
  | .eucJisx0213 => readEucJis2004 true
  | .shiftJis2004 => readShiftJis2004 false
  | .shiftJisx0213 => readShiftJis2004 true
  | .eucKr => readEucKr
  | .cp949 => readCp949
  | .johab => readJohab
  | _ => fun _ => .internal

def step (e : Encoding) (shift : Shift) (bytes : List UInt8) : Step Shift :=
  match e, shift with
  | .hz, .hz gb => (readHz gb bytes).mapState .hz
  | .hz, _ => (readHz false bytes).mapState .hz
  | .iso2022 v, .iso2022 s => (readIso2022 v s bytes).mapState .iso2022
  | .iso2022 v, _ => (readIso2022 v {} bytes).mapState .iso2022
  | e, shift => (e.reader bytes).mapState fun _ => shift

def decode (e : Encoding) (shift : Shift) (final : Bool) (bytes : List UInt8) :
    Except DecodeFailure (List Char × Nat × Shift) :=
  decodeSteps e.name e.step final shift [] 0 bytes

end Encoding

end Weave.Cjk
