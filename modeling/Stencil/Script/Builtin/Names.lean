/-!
The functions that come with the language, by family. What they do stands in the modules of the
families.
-/

namespace Stencil.Script

inductive ErrorKind where
  | error
  | typeError
  | rangeError
  | referenceError
  | syntaxError
  | evalError
  | uriError
  deriving DecidableEq, Repr

def ErrorKind.name : ErrorKind → String
  | .error => "Error"
  | .typeError => "TypeError"
  | .rangeError => "RangeError"
  | .referenceError => "ReferenceError"
  | .syntaxError => "SyntaxError"
  | .evalError => "EvalError"
  | .uriError => "URIError"

def ErrorKind.all : List ErrorKind :=
  [.error, .typeError, .rangeError, .referenceError, .syntaxError, .evalError, .uriError]

inductive ObjectFunction where
  | make
  | keys
  | values
  | entries
  | ofEntries
  | create
  | define
  | defineAll
  | ownNames
  | ownDescriptor
  | prototypeOf
  | setPrototype
  | assign
  | freeze
  | isFrozen
  | seal
  | isSealed
  | preventExtensions
  | isExtensible
  | same
  | hasOwn
  | hasOwnProperty
  | describe
  | describeLocally
  | itself
  | isPrototypeOf
  | isEnumerable
  | getPrototype
  | putPrototype
  deriving DecidableEq, Repr

inductive CallFunction where
  | make
  | nothing
  | refuse
  | call
  | apply
  | bind
  | describe
  deriving DecidableEq, Repr

inductive ListFunction where
  | make
  | isList
  | ofItems
  | copyOf
  | push
  | pop
  | shift
  | unshift
  | join
  | describe
  | concat
  | slice
  | splice
  | reverse
  | indexOf
  | lastIndexOf
  | includes
  | forEach
  | map
  | filter
  | some
  | every
  | find
  | findIndex
  | reduce
  | reduceRight
  | sort
  | fill
  | at
  | flat
  deriving DecidableEq, Repr

inductive TextFunction where
  | make
  | ofCodes
  | ofPoints
  | itself
  | charAt
  | codeAt
  | pointAt
  | at
  | indexOf
  | lastIndexOf
  | includes
  | startsWith
  | endsWith
  | substring
  | slice
  | upper
  | lower
  | trim
  | trimStart
  | trimEnd
  | concat
  | times
  | padStart
  | padEnd
  | split
  | replace
  | replaceAll
  | findAll
  | search
  deriving DecidableEq, Repr

inductive NumberFunction where
  | make
  | isNaN
  | isFinite
  | isInteger
  | isSafeInteger
  | describe
  | toFixed
  | itself
  | parseInt
  | parseFloat
  | anyIsNaN
  | anyIsFinite
  deriving DecidableEq, Repr

inductive BoolFunction where
  | make
  | describe
  | itself
  deriving DecidableEq, Repr

inductive SymbolFunction where
  | make
  | describe
  | description
  | itself
  deriving DecidableEq, Repr

inductive MathFunction where
  | abs
  | floor
  | ceil
  | round
  | trunc
  | sign
  | sqrt
  | cbrt
  | exp
  | log
  | log2
  | log10
  | sin
  | cos
  | tan
  | atan
  | atan2
  | power
  | max
  | min
  | hypot
  deriving DecidableEq, Repr

inductive JsonFunction where
  | stringify
  | parse
  deriving DecidableEq, Repr

inductive PatternFunction where
  | make
  | exec
  | test
  | describe
  | source
  | flags
  | isGlobal
  deriving DecidableEq, Repr

inductive UriFunction where
  | encode
  | encodePart
  | decode
  | decodePart
  deriving DecidableEq, Repr

inductive Builtin where
  | object (function : ObjectFunction)
  | function (function : CallFunction)
  | list (function : ListFunction)
  | text (function : TextFunction)
  | number (function : NumberFunction)
  | bool (function : BoolFunction)
  | symbol (function : SymbolFunction)
  | math (function : MathFunction)
  | json (function : JsonFunction)
  | pattern (function : PatternFunction)
  | error (kind : ErrorKind)
  | describeError
  | uri (function : UriFunction)
  /-- Runs a text as a script. -/
  | evaluate
  /-- Writes a line to the console, as a warning or not. -/
  | console (warning : Bool)
  deriving DecidableEq, Repr

/-- Whether `new` can be used on it. -/
def Builtin.isConstructor : Builtin → Bool
  | .object .make => true
  | .function .make => true
  | .list .make => true
  | .text .make => true
  | .number .make => true
  | .bool .make => true
  | .pattern .make => true
  | .error _ => true
  | _ => false

end Stencil.Script
