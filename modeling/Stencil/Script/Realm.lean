import Stencil.Script.Builtin.Run

/-!
The machine that a script finds: the global object with everything that comes with the language, and
the console.
-/

namespace Stencil.Script.Realm

open Run

/-- A function that comes with the language, as a value. -/
def newBuiltin (name : String) (length : Nat) (function : Builtin) : Run Nat :=
  allocate
    { prototype := some functionPrototype
      kind := .builtin function
      properties := ⟨#[(.length, .readOnly (.ofNat length)),
        (Key.ofString "name", .readOnly (.ofString name))]⟩ }

/-- A family of functions: their names, how many arguments they count, and what they are. -/
abbrev Family := List (String × Nat × Builtin)

def placeAll (holder : Nat) (family : Family) : Run Unit :=
  family.forM fun (name, length, function) => do
    place holder (.ofString name) (.hidden (.object (← newBuiltin name length function)))

def placeGetter (holder : Nat) (name : String) (getter : Builtin) (setter : Option Builtin) :
    Run Unit := do
  let getter ← newBuiltin ("get " ++ name) 0 getter
  let setter ←
    match setter with
    | some setter => Value.object <$> newBuiltin ("set " ++ name) 1 setter
    | none => pure .undefined
  place holder (.ofString name)
    { slot := .accessor (.object getter) setter, enumerable := false }

/-- A constructor with its functions, the prototype of its objects, and the functions of that. -/
def placeConstructor (name : String) (length : Nat) (function : Builtin) (prototype : Nat)
    (own members : Family) : Run Nat := do
  let id ← newBuiltin name length function
  place id .prototype (.fixed (.object prototype))
  place prototype (.ofString "constructor") (.hidden (.object id))
  placeAll id own
  placeAll prototype members
  place globalObject (.ofString name) (.hidden (.object id))
  return id

/-! ### Families -/

def objectOwn : Family :=
  [("keys", 1, .object .keys), ("values", 1, .object .values), ("entries", 1, .object .entries),
    ("fromEntries", 1, .object .ofEntries), ("create", 2, .object .create),
    ("defineProperty", 3, .object .define), ("defineProperties", 2, .object .defineAll),
    ("getOwnPropertyNames", 1, .object .ownNames),
    ("getOwnPropertyDescriptor", 2, .object .ownDescriptor),
    ("getPrototypeOf", 1, .object .prototypeOf), ("setPrototypeOf", 2, .object .setPrototype),
    ("assign", 2, .object .assign), ("freeze", 1, .object .freeze),
    ("isFrozen", 1, .object .isFrozen), ("seal", 1, .object .seal),
    ("isSealed", 1, .object .isSealed), ("preventExtensions", 1, .object .preventExtensions),
    ("isExtensible", 1, .object .isExtensible), ("is", 2, .object .same),
    ("hasOwn", 2, .object .hasOwn)]

def objectMembers : Family :=
  [("hasOwnProperty", 1, .object .hasOwnProperty), ("toString", 0, .object .describe),
    ("toLocaleString", 0, .object .describeLocally), ("valueOf", 0, .object .itself),
    ("isPrototypeOf", 1, .object .isPrototypeOf),
    ("propertyIsEnumerable", 1, .object .isEnumerable)]

def functionMembers : Family :=
  [("call", 1, .function .call), ("apply", 2, .function .apply), ("bind", 1, .function .bind),
    ("toString", 0, .function .describe)]

def listOwn : Family :=
  [("isArray", 1, .list .isList), ("of", 0, .list .ofItems), ("from", 1, .list .copyOf)]

def listMembers : Family :=
  [("push", 1, .list .push), ("pop", 0, .list .pop), ("shift", 0, .list .shift),
    ("unshift", 1, .list .unshift), ("join", 1, .list .join), ("toString", 0, .list .describe),
    ("concat", 1, .list .concat), ("slice", 2, .list .slice), ("splice", 2, .list .splice),
    ("reverse", 0, .list .reverse), ("indexOf", 1, .list .indexOf),
    ("lastIndexOf", 1, .list .lastIndexOf), ("includes", 1, .list .includes),
    ("forEach", 1, .list .forEach), ("map", 1, .list .map), ("filter", 1, .list .filter),
    ("some", 1, .list .some), ("every", 1, .list .every), ("find", 1, .list .find),
    ("findIndex", 1, .list .findIndex), ("reduce", 1, .list .reduce),
    ("reduceRight", 1, .list .reduceRight), ("sort", 1, .list .sort), ("fill", 1, .list .fill),
    ("at", 1, .list .at), ("flat", 0, .list .flat)]

def textOwn : Family :=
  [("fromCharCode", 1, .text .ofCodes), ("fromCodePoint", 1, .text .ofPoints)]

def textMembers : Family :=
  [("toString", 0, .text .itself), ("valueOf", 0, .text .itself), ("charAt", 1, .text .charAt),
    ("charCodeAt", 1, .text .codeAt), ("codePointAt", 1, .text .pointAt), ("at", 1, .text .at),
    ("indexOf", 1, .text .indexOf), ("lastIndexOf", 1, .text .lastIndexOf),
    ("includes", 1, .text .includes), ("startsWith", 1, .text .startsWith),
    ("endsWith", 1, .text .endsWith), ("substring", 2, .text .substring),
    ("slice", 2, .text .slice), ("toUpperCase", 0, .text .upper),
    ("toLowerCase", 0, .text .lower), ("toLocaleUpperCase", 0, .text .upper),
    ("toLocaleLowerCase", 0, .text .lower), ("trim", 0, .text .trim),
    ("trimStart", 0, .text .trimStart), ("trimEnd", 0, .text .trimEnd),
    ("concat", 1, .text .concat), ("repeat", 1, .text .times), ("padStart", 1, .text .padStart),
    ("padEnd", 1, .text .padEnd), ("split", 2, .text .split), ("replace", 2, .text .replace),
    ("replaceAll", 2, .text .replaceAll), ("match", 1, .text .findAll),
    ("search", 1, .text .search)]

def numberOwn : Family :=
  [("isNaN", 1, .number .isNaN), ("isFinite", 1, .number .isFinite),
    ("isInteger", 1, .number .isInteger), ("isSafeInteger", 1, .number .isSafeInteger),
    ("parseInt", 2, .number .parseInt), ("parseFloat", 1, .number .parseFloat)]

def numberMembers : Family :=
  [("toString", 1, .number .describe), ("toLocaleString", 0, .number .describe),
    ("toFixed", 1, .number .toFixed), ("valueOf", 0, .number .itself)]

def numberConstants : List (String × Float) :=
  [("MAX_SAFE_INTEGER", 9007199254740991.0), ("MIN_SAFE_INTEGER", -9007199254740991.0),
    ("MAX_VALUE", 1.7976931348623157e308), ("MIN_VALUE", 5e-324),
    ("EPSILON", 2.220446049250313e-16), ("POSITIVE_INFINITY", Number.infinity),
    ("NEGATIVE_INFINITY", -Number.infinity), ("NaN", Number.nan)]

def boolMembers : Family :=
  [("toString", 0, .bool .describe), ("valueOf", 0, .bool .itself)]

def symbolMembers : Family :=
  [("toString", 0, .symbol .describe), ("valueOf", 0, .symbol .itself)]

def patternMembers : Family :=
  [("exec", 1, .pattern .exec), ("test", 1, .pattern .test), ("toString", 0, .pattern .describe)]

def mathMembers : Family :=
  [("abs", 1, .math .abs), ("floor", 1, .math .floor), ("ceil", 1, .math .ceil),
    ("round", 1, .math .round), ("trunc", 1, .math .trunc), ("sign", 1, .math .sign),
    ("sqrt", 1, .math .sqrt), ("cbrt", 1, .math .cbrt), ("exp", 1, .math .exp),
    ("log", 1, .math .log), ("log2", 1, .math .log2), ("log10", 1, .math .log10),
    ("sin", 1, .math .sin), ("cos", 1, .math .cos), ("tan", 1, .math .tan),
    ("atan", 1, .math .atan), ("atan2", 2, .math .atan2), ("pow", 2, .math .power),
    ("max", 2, .math .max), ("min", 2, .math .min), ("hypot", 2, .math .hypot)]

def mathConstants : List (String × Float) :=
  [("PI", 3.141592653589793), ("E", 2.718281828459045), ("LN2", 0.6931471805599453),
    ("LN10", 2.302585092994046), ("LOG2E", 1.4426950408889634), ("LOG10E", 0.4342944819032518),
    ("SQRT2", 1.4142135623730951), ("SQRT1_2", 0.7071067811865476)]

def jsonMembers : Family :=
  [("stringify", 3, .json .stringify), ("parse", 2, .json .parse)]

def globalMembers : Family :=
  [("isNaN", 1, .number .anyIsNaN), ("isFinite", 1, .number .anyIsFinite), ("eval", 1, .evaluate),
    ("encodeURI", 1, .uri .encode), ("encodeURIComponent", 1, .uri .encodePart),
    ("decodeURI", 1, .uri .decode), ("decodeURIComponent", 1, .uri .decodePart)]

def consoleMembers : Family :=
  [("log", 0, .console false), ("info", 0, .console false), ("debug", 0, .console false),
    ("warn", 0, .console true), ("error", 0, .console true)]

/-! ### The machine -/

/-- The objects with fixed numbers, before anything is put into them. -/
def bare : Machine :=
  let ordinary : Object := { prototype := some objectPrototype }
  let wrapper (value : Value) : Object := { ordinary with kind := .wrapper value }
  { objects :=
      #[ordinary, { prototype := none }, { ordinary with kind := .builtin (.function .nothing) },
        { ordinary with kind := .list 0 false }, wrapper (.text []), wrapper (.number 0.0),
        wrapper (.bool false), ordinary, ordinary, ordinary]
        ++ (Array.replicate 6 { prototype := some (errorPrototype .error) })
        ++ #[{ ordinary with
          prototype := some functionPrototype
          kind := .builtin (.function .refuse)
          extensible := false }]
    scopes := #[{ parent := none }]
    symbols :=
      #["Symbol.iterator", "Symbol.toPrimitive", "Symbol.toStringTag", "Symbol.hasInstance"].map
        fun name => some (Units.ofString name) }

def placeConstants (holder : Nat) (constants : List (String × Float)) : Run Unit :=
  constants.forM fun (name, value) => place holder (.ofString name) (.fixed (.number value))

/-- An error constructor; those of one kind come from that of all errors. -/
def placeErrorKind (parent : Option Nat) (kind : ErrorKind) : Run Nat := do
  let id ← placeConstructor kind.name 1 (.error kind) (errorPrototype kind) [] []
  place (errorPrototype kind) (.ofString "name") (.hidden (.ofString kind.name))
  place (errorPrototype kind) (.ofString "message") (.hidden (.text []))
  if let some parent := parent then
    update id fun held => { held with prototype := some parent }
  return id

def placeErrors : Run Unit := do
  let parent ← placeErrorKind none .error
  placeAll (errorPrototype .error) [("toString", 0, .describeError)]
  ErrorKind.all.tail.forM fun kind => do
    let _ ← placeErrorKind (some parent) kind

def placeHolder (name : String) (family : Family) (tag : Option String) : Run Nat := do
  let id ← newObject
  placeAll id family
  if let some tag := tag then place id (.symbol tagSymbol) (.readOnly (.ofString tag))
  place globalObject (.ofString name) (.hidden (.object id))
  return id

def placeObjects : Run Unit := do
  let _ ← placeConstructor "Object" 1 (.object .make) objectPrototype objectOwn objectMembers
  placeGetter objectPrototype "__proto__" (.object .getPrototype) (some (.object .putPrototype))
  let _ ← placeConstructor "Function" 1 (.function .make) functionPrototype [] functionMembers
  place functionPrototype (.ofString "name") (.readOnly (.text []))
  place functionPrototype .length (.readOnly (.ofNat 0))
  let _ ← placeConstructor "Array" 1 (.list .make) listPrototype listOwn listMembers

def placeWrappers : Run Unit := do
  let _ ← placeConstructor "String" 1 (.text .make) textPrototype textOwn textMembers
  let number ← placeConstructor "Number" 1 (.number .make) numberPrototype numberOwn numberMembers
  placeConstants number numberConstants
  for name in ["parseInt", "parseFloat"] do
    match ← ownProperty? number (.ofString name) with
    | some property => place globalObject (.ofString name) property
    | none => pure ()
  let _ ← placeConstructor "Boolean" 1 (.bool .make) boolPrototype [] boolMembers
  let symbol ← placeConstructor "Symbol" 0 (.symbol .make) symbolPrototype [] symbolMembers
  for (name, id) in [("iterator", iteratorSymbol), ("toPrimitive", toPrimitiveSymbol),
      ("toStringTag", tagSymbol), ("hasInstance", instanceSymbol)] do
    place symbol (.ofString name) (.fixed (.symbol id))
  placeGetter symbolPrototype "description" (.symbol .description) none
  place symbolPrototype (.symbol tagSymbol) (.readOnly (.ofString "Symbol"))

def placePatterns : Run Unit := do
  let _ ← placeConstructor "RegExp" 2 (.pattern .make) patternPrototype [] patternMembers
  placeGetter patternPrototype "source" (.pattern .source) none
  placeGetter patternPrototype "flags" (.pattern .flags) none
  placeGetter patternPrototype "global" (.pattern .isGlobal) none

def placeGlobals : Run Unit := do
  let math ← placeHolder "Math" mathMembers (some "Math")
  placeConstants math mathConstants
  let _ ← placeHolder "JSON" jsonMembers (some "JSON")
  placeAll globalObject globalMembers
  placeConstants globalObject [("NaN", Number.nan), ("Infinity", Number.infinity)]
  place globalObject (.ofString "undefined") (.fixed .undefined)
  place globalObject (.ofString "globalThis") (.hidden (.object globalObject))
  let console ← newObject
  placeAll console consoleMembers
  place globalObject (.ofString "console") (.plain (.object console))

def furnish : Run Unit := do
  placeObjects
  placeErrors
  placeWrappers
  placePatterns
  placeGlobals

def start : Machine :=
  match furnish bare with
  | .ok _ machine => machine
  | .error _ machine => machine

end Stencil.Script.Realm
