import Weave.Data.Literal

/-! # Faults

Everything that can stop a step of the program is a `Fault`: a constructor per cause,
carrying the data that the report of that cause needs. The first six causes are the
documented failures of reading sources and configuration: each has a category, and is
reported against a file and a line when it has them. The others are values given to an
operation outside its domain. `Fault.message` words each cause once.
-/

namespace Weave

/-- The ways the second read of a source can disagree with its tokens. -/
inductive Mismatch where
  | fewerLines
  | moreLines
  | lineDiffers
deriving DecidableEq, Repr

/-- The ways the file system can refuse an operation on a path. -/
inductive OsRefusal where
  | notFound
  | isDirectory
  | notDirectory
  | alreadyExists
  | fileTooLarge
deriving DecidableEq, Repr

def OsRefusal.errno : OsRefusal → Nat
  | .notFound => 2
  | .isDirectory => 21
  | .notDirectory => 20
  | .alreadyExists => 17
  | .fileTooLarge => 27

def OsRefusal.words : OsRefusal → String
  | .notFound => "No such file or directory"
  | .isDirectory => "Is a directory"
  | .notDirectory => "Not a directory"
  | .alreadyExists => "File exists"
  | .fileTooLarge => "File too large"

/-- Why a step of the program stopped. -/
inductive Fault where
  | unterminatedLiteral (opening : String) (line : Nat) (file : String)
  | duplicateType (name file : Value) (firstLine line : Value)
  | malformedDeclaration (keyword file : String) (line : Nat)
  | sourceMismatch (what : Mismatch) (file : String) (line : Nat)
  | unreadable (reason file : String)
  | configInvalid (reason file : String)
  | notDeclKind (v : Value)
  | notLineKind (v : Value)
  | missingKey (key : String)
  | notIntegerInBase (s : String) (base : Nat)
  | tooManyDigits (digits : Nat)
  | tooManyDigitsToWrite
  | nestedTooDeep (isObject : Bool)
  | notFloatText (s : String)
  | textIndexOutOfRange
  | badTimestamp (reason : String)
  | patternOnList
  | codeOutOfRange
  | codeTooLarge
  | recursionLimit
  | notIntegerSort (typeName : String)
  | integerOfNaN
  | integerOfInfinity
  | tooLargeForFloat
  | emptyRoot
  | emptyPath
  | emptyName (shown : String)
  | unknownEncoding (name : String)
  | notTextEncoding (name : String)
  | undecodable (message : String)
  | codecRefused (reason : String)
  | codecInternal
  | refused (why : OsRefusal) (path : String)
  | encodingNotText (typeName : String)
  | unencodable (message : String)
  | embeddedNull
  | nulInPath
  | notPathLike (typeName : String)
  | bytesPath
  | cannotJoinPath (typeName : String)
  | notContainer (typeName : String)
  | textInBytes
  | noAttribute (typeName member : String)
  | unhashable (typeName : String)
  | unordered (left right : String)
  | notSubscriptable (typeName : String)
  | textIndexedByText
  | listIndexedByText
  | notIterable (typeName : String)
  | notKeywordMapping (callee typeName : String)
  | unexpectedField (record field : String)
  | sourceNotFound (path : String)
  | unknownPolicy (v : Value)
deriving Inhabited

namespace Fault

def category? : Fault → Option String
  | unterminatedLiteral .. => some "unterminated_literal"
  | duplicateType .. => some "duplicate_type"
  | malformedDeclaration .. => some "malformed_declaration"
  | sourceMismatch .. => some "source_mismatch"
  | unreadable .. => some "io_error"
  | configInvalid .. => some "config_invalid"
  | _ => none

def file : Fault → Value
  | unterminatedLiteral _ _ f => .str f
  | duplicateType _ f _ _ => f
  | malformedDeclaration _ f _ => .str f
  | sourceMismatch _ f _ => .str f
  | unreadable _ f => .str f
  | configInvalid _ f => .str f
  | _ => .str ""

def withFile (f : String) : Fault → Fault
  | unterminatedLiteral o l _ => unterminatedLiteral o l f
  | duplicateType n _ a l => duplicateType n (.str f) a l
  | malformedDeclaration k _ l => malformedDeclaration k f l
  | sourceMismatch w _ l => sourceMismatch w f l
  | unreadable r _ => unreadable r f
  | configInvalid r _ => configInvalid r f
  | e => e

def line : Fault → Value
  | unterminatedLiteral _ l _ => .int l
  | duplicateType _ _ _ l => l
  | malformedDeclaration _ _ l => .int l
  | sourceMismatch _ _ l => .int l
  | _ => .int 0

/-- The words of a fault. -/
def message : Fault → String
  | unterminatedLiteral o _ _ => "Unterminated literal starting with " ++ quoteText o
  | duplicateType n _ a _ =>
    "Duplicate type '" ++ n.display ++ "' (first declared on line " ++ a.display ++ ")"
  | malformedDeclaration k _ _ => "Source ended inside '" ++ k ++ "' declaration"
  | sourceMismatch .fewerLines _ _ => "Source has fewer lines than its token stream"
  | sourceMismatch .moreLines _ _ => "Source has more lines than its token stream"
  | sourceMismatch .lineDiffers _ _ => "Line content differs from its token stream"
  | unreadable r _ => r
  | configInvalid r _ => r
  | notDeclKind v => v.literal ++ " is not a valid TypeKind"
  | notLineKind v => v.literal ++ " is not a valid LineKind"
  | missingKey k => quoteText k
  | notIntegerInBase s b =>
    "invalid literal for int() with base " ++ toString b ++ ": " ++
      String.ofList ((quoteText s).toList.take 200)
  | tooManyDigits n =>
    "Exceeds the limit (4300 digits) for integer string conversion: value has " ++ toString n ++
      " digits; use sys.set_int_max_str_digits() to increase the limit"
  | tooManyDigitsToWrite =>
    "Exceeds the limit (4300 digits) for integer string conversion; " ++
      "use sys.set_int_max_str_digits() to increase the limit"
  | nestedTooDeep isObject =>
    "maximum recursion depth exceeded while decoding a JSON " ++
      (if isObject then "object" else "array") ++ " from a unicode string"
  | notFloatText s => "could not convert string to float: " ++ quoteText s
  | textIndexOutOfRange => "string index out of range"
  | badTimestamp r => r
  | patternOnList => "expected string or bytes-like object, got 'list'"
  | codeOutOfRange => "chr() arg not in range(0x110000)"
  | codeTooLarge => "Python int too large to convert to C int"
  | recursionLimit => "maximum recursion depth exceeded"
  | notIntegerSort t =>
    "int() argument must be a string, a bytes-like object or a real number, not '" ++ t ++ "'"
  | integerOfNaN => "cannot convert float NaN to integer"
  | integerOfInfinity => "cannot convert float infinity to integer"
  | tooLargeForFloat => "int too large to convert to float"
  | emptyRoot => "root must not be empty"
  | emptyPath => "path must not be empty"
  | emptyName shown => shown ++ " has an empty name"
  | unknownEncoding n => "unknown encoding: " ++ n
  | notTextEncoding n =>
    "'" ++ n ++ "' is not a text encoding; use codecs.open() to handle arbitrary codecs"
  | codecRefused r => r
  | codecInternal => "internal codec error"
  | undecodable m => m
  | refused why p => "[Errno " ++ toString why.errno ++ "] " ++ why.words ++ ": " ++ quoteText p
  | encodingNotText t => "open() argument 'encoding' must be str or None, not " ++ t
  | unencodable m => m
  | embeddedNull => "embedded null character"
  | nulInPath => "embedded null byte"
  | notPathLike t => "expected str, bytes or os.PathLike object, not " ++ t
  | cannotJoinPath t => "unsupported operand type(s) for /: 'PosixPath' and '" ++ t ++ "'"
  | notContainer t => "argument of type '" ++ t ++ "' is not iterable"
  | textInBytes => "a bytes-like object is required, not 'str'"
  | bytesPath =>
    "argument should be a str object or an os.PathLike object returning str, not <class 'bytes'>"
  | noAttribute t a => "'" ++ t ++ "' object has no attribute '" ++ a ++ "'"
  | unhashable t => "unhashable type: '" ++ t ++ "'"
  | unordered l r => "'<' not supported between instances of '" ++ l ++ "' and '" ++ r ++ "'"
  | notSubscriptable t => "'" ++ t ++ "' object is not subscriptable"
  | textIndexedByText => "string indices must be integers, not 'str'"
  | listIndexedByText => "list indices must be integers or slices, not str"
  | notIterable t => "'" ++ t ++ "' object is not iterable"
  | notKeywordMapping c t => c ++ "() argument after ** must be a mapping, not " ++ t
  | unexpectedField r f => r ++ ".__init__() got an unexpected keyword argument '" ++ f ++ "'"
  | sourceNotFound p => "Source not found: " ++ p
  | unknownPolicy v => "on_error must be 'abort' or 'skip', not " ++ v.literal

def toValue (e : Fault) : Value :=
  .dict ([(.str "error", .str (e.category?.getD "error")), (.str "message", .str e.message)] ++
    (if e.file.truthy then [(.str "file", e.file)] else []) ++
    (if e.line.truthy then [(.str "line", e.line)] else []))

def summary (e : Fault) : String :=
  let parts := [e.message] ++ (if e.file.truthy then ["file: " ++ e.file.display] else []) ++
    (if e.line.truthy then ["line: " ++ e.line.display] else [])
  " | ".intercalate parts

end Fault

end Weave
