import Rehearsal.Value.Basic

/-!
# Equality of values

Numbers are equal across their kinds, sets whatever their order, dictionaries entry by entry. A
verdict equals its name. Records are equal within one kind, field by field. What has no value of
its own, such as a server, equals only itself, and what is not a number equals nothing. Parts of a
value are compared by `alike`, for which each value is like itself.
-/

namespace Rehearsal

/-- Whether the values are one and the same double that is not a number. -/
def Value.identical : Value → Value → Bool
  | .nan a, .nan b => a == b
  | _, _ => false

mutual

def Value.same : Value → Value → Bool
  | .none, .none => true
  | .bool a, y => y.number?.any (Number.same (.bool a))
  | .int a, y => y.number?.any (Number.same (.int a))
  | .float a, y => y.number?.any (Number.same (.float a))
  | .text a, .text b => a.same b
  | .bytes a, .bytes b => a == b
  | .list xs, .list ys => Value.alikeAll xs ys
  | .tuple xs, .tuple ys => Value.alikeAll xs ys
  | .set xs, .set ys | .set xs, .frozenset ys | .frozenset xs, .set ys
  | .frozenset xs, .frozenset ys => xs.length == ys.length && Value.allWithin xs ys
  | .dict xs, .dict ys => xs.length == ys.length && Value.entriesWithin xs ys
  | .instant a, .instant b => a.same b
  | .duration a, .duration b => a == b
  | .handle a, .handle b => a == b
  | .fault a, .fault b => a.same b
  | .success x, .success y => x.identical y || x.same y
  | .failure x, .failure y => x.identical y || x.same y
  | .response a, .response b => a.same b
  | .assertion a, .assertion b => a.same b
  | .summary a b xs, .summary c d ys =>
    (a.identical c || a.same c) && (b.identical d || b.same d) && Value.alikeAll xs ys
  | .generator a, .generator b => a.identical b || a.same b
  | .session a, .session b => a == b
  | .settings a, .settings b => a.same b
  | .exception _ a, .exception _ b => a == b
  | .server a, .server b => a == b
  | .environment a, .environment b => a.same b
  | .client a, .client b => a == b
  | _, _ => false

def Value.alikeAll : List Value → List Value → Bool
  | [], [] => true
  | x :: xs, y :: ys => (x.identical y || x.same y) && Value.alikeAll xs ys
  | _, _ => false

/-- Every item is like one of the others. -/
def Value.allWithin : List Value → List Value → Bool
  | [], _ => true
  | x :: xs, ys => ys.any (fun y => x.identical y || x.same y) && Value.allWithin xs ys

/-- Every entry has one like it, in key and in value. -/
def Value.entriesWithin : List (Value × Value) → List (Value × Value) → Bool
  | [], _ => true
  | (k, v) :: es, others =>
    others.any (fun (l, w) =>
      (k.identical l || k.same l) && (v.identical w || v.same w)) &&
      Value.entriesWithin es others

/-- Entries of two logs are alike one by one. -/
def Value.alikeLog : List (String × Value) → List (String × Value) → Bool
  | [], [] => true
  | (m, x) :: xs, (n, y) :: ys =>
    m == n && (x.identical y || x.same y) && Value.alikeLog xs ys
  | _, _ => false

def Fault.same : Fault → Fault → Bool
  | ⟨kind, message, path⟩, other =>
    kind == other.kind && (message.identical other.message || message.same other.message) &&
      (path.identical other.path || path.same other.path)

def Fault.sameOption : Option Fault → Option Fault → Bool
  | none, none => true
  | some f, some g => f.same g
  | _, _ => false

def Response.same : Response → Response → Bool
  | ⟨status, body, headers, url⟩, other =>
    (status.identical other.status || status.same other.status) && body == other.body &&
      headers == other.headers && (url.identical other.url || url.same other.url)

/-- Clocks are compared as instants, assertions by what they read as. -/
def Environment.same : Environment → Environment → Bool
  | ⟨session, clientLocal, printLog, consoleOut, consoleQueue, consoleDefault, clock, tick,
      captured, fileExists, fileFull, fileOut, fileIn, generator, echo, consoleChar, assertions,
      context⟩, other =>
    session == other.session &&
      (clientLocal.identical other.clientLocal || clientLocal.same other.clientLocal) &&
      Value.alikeLog printLog other.printLog && Value.alikeAll consoleOut other.consoleOut &&
      Value.alikeAll consoleQueue other.consoleQueue &&
      (consoleDefault.identical other.consoleDefault ||
        consoleDefault.same other.consoleDefault) &&
      clock.same other.clock && tick == other.tick &&
      Fault.sameOption captured other.captured && fileExists == other.fileExists &&
      fileFull == other.fileFull && fileOut == other.fileOut &&
      Value.alikeAll fileIn other.fileIn && generator == other.generator && echo == other.echo &&
      consoleChar == other.consoleChar && assertions.length == other.assertions.length &&
      (assertions.zip other.assertions).all (fun (a, b) => a.same b) &&
      Value.alikeAll context other.context

end

namespace Value

/-- Equal, or one and the same. -/
def alike (x y : Value) : Bool := x.identical y || x.same y

/-- Puts an entry: a key like it keeps its place and its form and takes the new value. -/
def put (key value : Value) : List (Value × Value) → List (Value × Value)
  | [] => [(key, value)]
  | (k, v) :: rest => if k.alike key then (k, value) :: rest else (k, v) :: put key value rest

def dictOf (entries : List (Value × Value)) : Value :=
  dict (entries.foldl (fun acc (k, v) => put k v acc) [])

/-- Of items that are alike the first one stays. -/
def distinct (items : List Value) : List Value :=
  (items.foldl (fun acc x => if acc.any (alike · x) then acc else x :: acc) []).reverse

/-- The entry of a key. -/
def lookup (key : Value) (entries : List (Value × Value)) : Option Value :=
  (entries.find? fun (k, _) => k.alike key).map (·.2)

end Value

mutual

/-- The kind of the first part that cannot be a key or a member of a set. -/
def Value.unhashable? : Value → Option String
  | .list _ => some "list"
  | .dict _ => some "dict"
  | .set _ => some "set"
  | .settings _ => some "MockConfig"
  | .tuple items => Value.firstUnhashable? items
  | .fault f => f.unhashable?
  | .success v => v.unhashable?
  | .failure v => v.unhashable?
  | .response r => r.unhashable?
  | .summary _ _ failed => Value.firstUnhashable? failed
  | .generator seed => seed.unhashable?
  | .environment e => e.unhashable?
  | _ => Option.none

def Value.firstUnhashable? : List Value → Option String
  | [] => Option.none
  | x :: xs => x.unhashable?.or (Value.firstUnhashable? xs)

def Value.firstNamedUnhashable? : List (String × Value) → Option String
  | [] => Option.none
  | (_, v) :: es => v.unhashable?.or (Value.firstNamedUnhashable? es)

def Fault.unhashable? : Fault → Option String
  | ⟨_, message, path⟩ => message.unhashable?.or path.unhashable?

def Fault.optionUnhashable? : Option Fault → Option String
  | none => Option.none
  | some f => f.unhashable?

def Response.unhashable? : Response → Option String
  | ⟨status, _, _, url⟩ => status.unhashable?.or url.unhashable?

def Environment.unhashable? : Environment → Option String
  | ⟨_, clientLocal, printLog, consoleOut, consoleQueue, consoleDefault, _, _, captured, _, _, _,
      fileIn, _, _, _, _, context⟩ =>
    clientLocal.unhashable?.or <| (Value.firstNamedUnhashable? printLog).or <|
      (Value.firstUnhashable? consoleOut).or <| (Value.firstUnhashable? consoleQueue).or <|
      consoleDefault.unhashable?.or <| (Fault.optionUnhashable? captured).or <|
      (Value.firstUnhashable? fileIn).or (Value.firstUnhashable? context)

end

end Rehearsal
