/-
# Route analysis in the firmware server

`ServerHandler::handle` answers a request in three stages: `analyze_route` turns the
method and path into the index of a route and the parameters the request carries,
`run_function` runs that route's handler, and the response is written back.

`analyze_route` strips one trailing `/`, checks that the first segment of the path is not
the whole path and that the second is the main route's name, and then looks for the first
route under the request's method whose segments start the rest of the path. A route
without parameters is returned at once; otherwise its parameters are read from the
segments after the route's own (for `GET`) or from the JSON body (for the other methods).

What the router takes from outside this repository is the structure `Parsers`: the
`FromStr` parsers of `core` (their errors by their `Display`), `serde_json`, and the
helpers `match_kind` and `as_type` of `tosca::parameters`. A read of the request body is
modelled by what it delivered. Where Rust panics, the model returns `none`.
-/

import Mathlib.Data.Nat.Find
import Tosca.Firmware.Light

namespace Tosca.Firmware

/-- `MAXIMUM_REQUEST_SIZE`. -/
def maximumRequestSize : Nat := 128

/-- `error_response_with_error`. -/
def errorResponseWithError (description error : String) : Response :=
  .error ⟨.internal, description, some error⟩

/-- `error_response`. -/
def errorResponse (description : String) : Response :=
  .error ⟨.internal, description, none⟩

/-- `invalid_data_response`. -/
def invalidDataResponse (description : String) : Response :=
  .error ⟨.invalidData, description, none⟩

/-- The parsers and helpers of other crates the router calls. A float parser returns the
bit pattern of the value. -/
structure Parsers where
  bool : String → Except String Bool
  u8 : String → Except String UInt8
  u16 : String → Except String UInt16
  u32 : String → Except String UInt32
  u64 : String → Except String UInt64
  f32 : String → Except String UInt32
  f64 : String → Except String UInt64
  usize : String → Except String Nat
  parametersValues : List UInt8 → Except String ParametersValues
  matchKind : ParameterValue → ParameterKind → Bool
  valueType : ParameterValue → String
  kindType : ParameterKind → String

/-- The request headers; `edge_http` looks a name up ignoring ASCII case. -/
abbrev Headers := List (String × String)

/-- `headers.get(name)`. -/
def Headers.get (headers : Headers) (name : String) : Option String :=
  (headers.find? fun header => header.1.toLower == name.toLower).map (·.2)

/-- What `body.read(&mut bytes)` delivered, or its error as `{:?}` prints it. -/
abbrev Body := Except String (List UInt8)

/-- `RouteInfo`: the index of the route a request names and its parameters. -/
structure RouteInfo where
  index : Nat
  parametersPayloads : ParametersPayloads
  deriving DecidableEq, Repr

/-! ## Parameters -/

section Parameters

variable (parsers : Parsers)

/-- `into_value`. -/
def intoValue {α : Type} (parameterValue typeMsg : String) (parse : String → Except String α)
    (generator : α → ParameterValue) : Except Response ParameterValue :=
  match parse parameterValue with
  | .ok value => .ok (generator value)
  | .error e =>
    .error (errorResponseWithError s!"Failed to parse `{parameterValue}` into `{typeMsg}` type" e)

/-- `parse_parameter_value`: parse a path segment as a value of the declared kind. -/
def parseParameterValue (parameterValue : String) : ParameterKind → Except Response ParameterValue
  | .bool => intoValue parameterValue "bool" parsers.bool .bool
  | .u8 => intoValue parameterValue "u8" parsers.u8 .u8
  | .u16 => intoValue parameterValue "u16" parsers.u16 .u16
  | .u32 | .rangeU32 => intoValue parameterValue "u32" parsers.u32 .u32
  | .u64 | .rangeU64 => intoValue parameterValue "u64" parsers.u64 .u64
  | .f32 => intoValue parameterValue "f32" parsers.f32 .f32
  | .f64 | .rangeF64 => intoValue parameterValue "f64" parsers.f64 .f64
  | .charsSequence => .ok (.charsSequence parameterValue)

/-- `char::escape_debug_ext` as `<str as Debug>` calls it (double quotes escaped, single
quotes not), on ASCII. NUL, tab, line feed, carriage return, the double quote and the
backslash get a backslash (`\0`, `\t`, `\n`, `\r`), the other control characters are written
as `\u` and their code in lower-case hex between braces, and every other character as it
is. Above ASCII the Unicode tables of `is_printable` and `is_grapheme_extended` are left
out, and the character is printed as it is. -/
def escapeDebug (c : Char) : String :=
  match c.toNat with
  | 0 => "\\0"
  | 9 => "\\t"
  | 10 => "\\n"
  | 13 => "\\r"
  | 34 => "\\\""
  | 92 => "\\\\"
  | n => if n < 0x20 ∨ n = 0x7F then "\\u\x7b" ++ String.mk (Nat.toDigits 16 n) ++ "\x7d"
    else c.toString

/-- `{:?}` of a `&str`: its characters escaped, between double quotes. -/
def debugStr (s : String) : String :=
  "\"" ++ String.join (s.toList.map escapeDebug) ++ "\""

/-- `{:?}` of a `Vec<&str>`: the names printed by `debugStr`, between brackets. -/
def debugNames (names : List String) : String :=
  "[" ++ ", ".intercalate (names.map debugStr) ++ "]"

example : debugNames ["a\"b", "x\n", "\x1b"] = "[\"a\\\"b\", \"x\\n\", \"\\u\x7b1b\x7d\"]" := by
  decide

/-- The loop of `parse_get_parameters`: each declared parameter, in order, from the next
segment of the path. -/
def parseGetParametersLoop :
    List (String × ParameterKind) → List String → ParametersPayloads →
      Except Response ParametersPayloads
  | [], _, payloads => .ok payloads
  | parameters@((name, kind) :: rest), routeIter, payloads =>
    match routeIter with
    | [] =>
      let missing := debugNames (parameters.map Prod.fst)
      .error (invalidDataResponse s!"Passed route path is too short, missing parameters: {missing}")
    | parameterValue :: routeIter => do
      let value ← parseParameterValue parsers parameterValue kind
      parseGetParametersLoop rest routeIter (insertByName payloads name ⟨kind, value⟩)

/-- `parse_get_parameters`. -/
def parseGetParameters (routeConfig : RouteConfig) (routeIter : List String) :
    Except Response ParametersPayloads :=
  parseGetParametersLoop parsers routeConfig.data.parameters.entries routeIter []

/-- The buffer after `body.read(&mut bytes)`: what the read delivered over the zeros the
buffer started with. -/
def readBuffer (delivered : List UInt8) : List UInt8 :=
  (delivered ++ List.replicate maximumRequestSize 0).take maximumRequestSize

/-- `parse_headers_parameters`: the parameters of a request other than `GET`, from its
JSON body. -/
def parseHeadersParameters (routeConfig : RouteConfig) (headers : Headers) (body : Body) :
    Except Response ParametersPayloads := do
  let some contentLength := headers.get "Content-Length"
    | throw (invalidDataResponse "No `Content-Length` found")
  let contentLength ← (parsers.usize contentLength).mapError
    (errorResponseWithError "Unable to convert the `Content-Length` header into a number")
  if contentLength > maximumRequestSize then
    let size := maximumRequestSize
    throw (errorResponse
      s!"The request exceeds the maximum allowed size of {size} and cannot be processed")
  let some contentType := headers.get "Content-Type"
    | throw (invalidDataResponse "No `Content-Type` found")
  if contentType ≠ "application/json" then
    throw (invalidDataResponse "The request body does not have a JSON format as content type")
  let bytes ← body.mapError (errorResponseWithError "Error reading the request bytes")
  let routeParameters ← (parsers.parametersValues ((readBuffer bytes).take contentLength)).mapError
    (errorResponseWithError "Failed to convert bytes into a sequence of parameters")
  let addParameter (payloads : ParametersPayloads) (parameter : String × ParameterValue) :
      Except Response ParametersPayloads := do
    let (parameterName, parameterValue) := parameter
    let some parameterKind := routeConfig.data.parameters.get parameterName
      | throw (invalidDataResponse s!"Parameter `{parameterName}` not found")
    if !parsers.matchKind parameterValue parameterKind then
      let found := parsers.valueType parameterValue
      let expected := parsers.kindType parameterKind
      throw (invalidDataResponse
        s!"Found type `{found}` for `{parameterName}`, expected type `{expected}`")
    pure (insertByName payloads parameterName ⟨parameterKind, parameterValue⟩)
  routeParameters.foldlM addParameter []

end Parameters

/-! ## Route selection -/

/-- How the route-selection loop of `analyze_route` ends: by `return` or `?` with a result,
or after a `break` or the last route, with the route index and what is left of the
request's segments. -/
inductive LoopExit
  | returned (result : Except Response RouteInfo)
  | exited (routeIndex : Nat) (routeIter : List String)

/-- `for _ in 0..count { route_iter.nth(0).ok_or_else(Response::not_found)?; }`. -/
def advance : Nat → List String → Option (List String)
  | 0, routeIter => some routeIter
  | _ + 1, [] => none
  | count + 1, _ :: routeIter => advance count routeIter

/-- The route-selection loop of `analyze_route`, over the enumerated routes; `none` where
slicing a route path panics. -/
def selectRoute (method : Method) (path : String) :
    List (Nat × RouteConfig) → Nat → List String → Option LoopExit
  | [], routeIndex, routeIter => some (.exited routeIndex routeIter)
  | (index, route) :: routes, routeIndex, routeIter =>
    if method ≠ methodMap route.restKind then selectRoute method path routes routeIndex routeIter
    else do
      let routePath ← sliceFrom1 route.data.path
      let routeSegments := splitTerminator routePath
      if !routeSegments.isPrefixOf ((splitTerminator path).drop 2) then
        selectRoute method path routes routeIndex routeIter
      else
        match advance routeSegments.length routeIter with
        | none => pure (.returned (.error .notFound))
        | some routeIter =>
          if route.data.parameters.isEmpty then pure (.returned (.ok ⟨index, []⟩))
          else pure (.exited index routeIter)

section Analysis

variable [BEq RouteConfig] {S : Type}

/-- `analyze_route`. -/
def analyzeRoute (parsers : Parsers) (device : InternalDevice S) (method : Method)
    (path : String) (headers : Headers) (body : Body) : Option (Except Response RouteInfo) :=
  let path := stripSuffixSlash path
  match splitTerminator path with
  | [] => some (.error .notFound)
  | emptyPath :: routeIter =>
    if emptyPath = path then some (.error .notFound)
    else
      match routeIter with
      | [] => some (.error .notFound)
      | mainRoutePath :: routeIter => do
        let mainRouteName ← sliceFrom1 device.mainRoute
        if mainRoutePath ≠ mainRouteName then return .error .notFound
        let exit ← selectRoute method path device.routeConfigs.toList.enum
          device.routeConfigs.len routeIter
        match exit with
        | .returned result => pure result
        | .exited routeIndex routeIter =>
          match device.routeConfigs.getIndex routeIndex with
          | none => pure (.error .notFound)
          | some routeConfig =>
            let parametersPayloads := match method with
              | .get => parseGetParameters parsers routeConfig routeIter
              | _ => parseHeadersParameters parsers routeConfig headers body
            pure (parametersPayloads.map (RouteInfo.mk routeIndex))

/-- `is_method_allowed`: true for a method other than the four a route can have, which
`handle` then refuses. -/
def isMethodAllowed : Method → Bool
  | .get | .post | .put | .delete => false
  | .other _ => true

/-- `handle`: the response written back. -/
def handle [ValueFromRef S] (parsers : Parsers) (device : InternalDevice S) (method : Method)
    (path : String) (headers : Headers) (body : Body) : Option Response :=
  if path = "/" then some device.mainRouteResponse
  else if isMethodAllowed method then some .notAllowed
  else do
    match ← analyzeRoute parsers device method path headers body with
    | .error response => pure response
    | .ok ⟨index, parametersPayloads⟩ => device.runFunction index parametersPayloads

end Analysis

/-! ## Lights with `GET` routes -/

/-- Parsers that accept nothing: a route without parameters never calls them. -/
def noParsers : Parsers :=
  ⟨fun _ => .error "", fun _ => .error "", fun _ => .error "", fun _ => .error "",
    fun _ => .error "", fun _ => .error "", fun _ => .error "", fun _ => .error "",
    fun _ => .error "", fun _ _ => false, fun _ => "", fun _ => ""⟩

/-- A `GET` route without parameters. -/
def getRoute (path : String) : RouteConfig := ⟨.get, ⟨path, .empty⟩, .ok⟩

/-- A light built with a stateless `GET` route for each path, in order. -/
def lightWith (paths : List String) : InternalDevice Unit :=
  (((paths.map fun path => LightCall.statelessOkRoute (getRoute path) fun _ => .ok ⟨⟩).foldl
    (LightCall.apply id) (.withState [] ())).build).intoInternal fun _ => ""

/-! ## What `analyze_route` accepts -/

/-- `parse_get_parameters` succeeds when each declared parameter, in order, parses from the
next segment; the payloads are then one entry per parameter, under its name and kind. -/
theorem parseGetParametersLoop_ok {parsers : Parsers} {parameters : List (String × ParameterKind)}
    {routeIter : List String} {acc payloads : ParametersPayloads}
    (nodup : (parameters.map Prod.fst).Nodup)
    (fresh : ∀ name ∈ parameters.map Prod.fst, name ∉ acc.map Prod.fst)
    (ok : parseGetParametersLoop parsers parameters routeIter acc = .ok payloads) :
    ∃ values : List ParameterValue, values.length = parameters.length ∧
      payloads = acc ++ List.zipWith (fun parameter value => (parameter.1, ⟨parameter.2, value⟩))
        parameters values ∧
      ∀ (k : Nat) (parameter : String × ParameterKind) (value : ParameterValue),
        parameters[k]? = some parameter → values[k]? = some value →
        ∃ segment, routeIter[k]? = some segment ∧
          parseParameterValue parsers segment parameter.2 = .ok value := by
  induction parameters generalizing routeIter acc with
  | nil =>
    cases ok
    exact ⟨[], rfl, by simp, by simp⟩
  | cons parameter parameters ih =>
    obtain ⟨name, kind⟩ := parameter
    cases routeIter with
    | nil => simp [parseGetParametersLoop] at ok
    | cons segment routeIter =>
      simp only [parseGetParametersLoop] at ok
      cases parsed : parseParameterValue parsers segment kind with
      | error e => simp [parsed, bind, Except.bind] at ok
      | ok value =>
        simp only [parsed, bind, Except.bind] at ok
        rw [List.map_cons, List.nodup_cons] at nodup
        have absent : name ∉ acc.map Prod.fst := fresh name (List.mem_cons_self _ _)
        rw [insertByName_of_fresh absent] at ok
        obtain ⟨values, length, payloads_eq, segments⟩ := ih nodup.2 (fun other mem => by
          simp only [List.map_append, List.map_cons, List.map_nil, List.mem_append,
            List.mem_singleton, not_or]
          exact ⟨fresh other (List.mem_cons_of_mem _ mem), fun same => nodup.1 (same ▸ mem)⟩) ok
        refine ⟨value :: values, by simp [length], by simp [payloads_eq], ?_⟩
        rintro (_ | k) parameter value' at_k at_value
        · simp only [List.getElem?_cons_zero, Option.some.injEq] at at_k at_value
          subst at_k at_value
          exact ⟨segment, List.getElem?_cons_zero, parsed⟩
        · simp only [List.getElem?_cons_succ] at at_k at_value ⊢
          exact segments k parameter value' at_k at_value

/-- The same for a route's declared parameters, from no payloads. -/
theorem parseGetParameters_ok {parsers : Parsers} {route : RouteConfig} {routeIter : List String}
    {payloads : ParametersPayloads} (ok : parseGetParameters parsers route routeIter = .ok payloads) :
    ∃ values : List ParameterValue, values.length = route.data.parameters.entries.length ∧
      payloads = List.zipWith (fun parameter value => (parameter.1, ⟨parameter.2, value⟩))
        route.data.parameters.entries values ∧
      ∀ (k : Nat) (parameter : String × ParameterKind) (value : ParameterValue),
        route.data.parameters.entries[k]? = some parameter → values[k]? = some value →
        ∃ segment, routeIter[k]? = some segment ∧
          parseParameterValue parsers segment parameter.2 = .ok value :=
  parseGetParametersLoop_ok route.data.parameters.names_nodup (fun _ _ => List.not_mem_nil _) ok

theorem advance_append (segments rest : List String) :
    advance segments.length (segments ++ rest) = some rest := by
  induction segments with
  | nil => rfl
  | cons _ _ ih => exact ih

/-- The route-selection loop ends in one of three ways: no route matched, the `?` of its
inner loop returned, or it stopped at a route under the request's method whose segments
start the rest of the path. -/
theorem selectRoute_cases {method : Method} {path : String} {routes : List (Nat × RouteConfig)}
    {routeIndex : Nat} {routeIter : List String} {exit : LoopExit}
    (selected : selectRoute method path routes routeIndex routeIter = some exit) :
    exit = .exited routeIndex routeIter ∨ exit = .returned (.error .notFound) ∨
      ∃ index route routePath rest, (index, route) ∈ routes ∧
        method = methodMap route.restKind ∧ sliceFrom1 route.data.path = some routePath ∧
        splitTerminator routePath <+: (splitTerminator path).drop 2 ∧
        advance (splitTerminator routePath).length routeIter = some rest ∧
        exit = if route.data.parameters.isEmpty then .returned (.ok ⟨index, []⟩)
          else .exited index rest := by
  induction routes with
  | nil => cases selected; exact .inl rfl
  | cons entry routes ih =>
    obtain ⟨index, route⟩ := entry
    simp only [selectRoute] at selected
    by_cases other : method ≠ methodMap route.restKind
    · rw [if_pos other] at selected
      refine (ih selected).imp_right (Or.imp_right ?_)
      rintro ⟨i, r, p, rest, mem, h⟩
      exact ⟨i, r, p, rest, List.mem_cons_of_mem _ mem, h⟩
    · rw [if_neg other] at selected
      obtain ⟨routePath, sliced, selected⟩ := Option.bind_eq_some.1 selected
      split at selected
      · refine (ih selected).imp_right (Or.imp_right ?_)
        rintro ⟨i, r, p, rest, mem, h⟩
        exact ⟨i, r, p, rest, List.mem_cons_of_mem _ mem, h⟩
      · rename_i matched
        split at selected
        · cases selected
          exact .inr (.inl rfl)
        · rename_i rest advanced
          refine .inr (.inr ⟨index, route, routePath, rest, List.mem_cons_self _ _,
            not_not.1 other, sliced, List.isPrefixOf_iff_prefix.1 (by simpa using matched),
            advanced, ?_⟩)
          split_ifs at selected ⊢ <;> exact (Option.some.inj selected).symm

section Accepted

variable [BEq RouteConfig] {S : Type}

/-- What an accepted request is: after one trailing `/` is stripped, its segments are a
first segment that is not the whole path, the main route's name, and the segments of the
route it names followed by more; that route answers the request's method; and for `GET`
the parameters are parsed from the segments after the route's. -/
theorem analyzeRoute_ok {parsers : Parsers} {device : InternalDevice S} {method : Method}
    {path : String} {headers : Headers} {body : Body} {index : Nat}
    {payloads : ParametersPayloads}
    (ok : analyzeRoute parsers device method path headers body = some (.ok ⟨index, payloads⟩)) :
    ∃ route first mainRouteName routePath more,
      device.routeConfigs.toList[index]? = some route ∧ method = methodMap route.restKind ∧
      sliceFrom1 device.mainRoute = some mainRouteName ∧
      sliceFrom1 route.data.path = some routePath ∧ first ≠ stripSuffixSlash path ∧
      splitTerminator (stripSuffixSlash path) =
        first :: mainRouteName :: (splitTerminator routePath ++ more) ∧
      (method = .get → ∃ values : List ParameterValue,
        values.length = route.data.parameters.entries.length ∧
        payloads = List.zipWith (fun parameter value => (parameter.1, ⟨parameter.2, value⟩))
          route.data.parameters.entries values ∧
        ∀ (k : Nat) (parameter : String × ParameterKind) (value : ParameterValue),
          route.data.parameters.entries[k]? = some parameter → values[k]? = some value →
          ∃ segment, more[k]? = some segment ∧
            parseParameterValue parsers segment parameter.2 = .ok value) := by
  simp only [analyzeRoute] at ok
  split at ok
  · simp at ok
  rename_i first routeIter split
  split at ok
  · simp at ok
  rename_i notWhole
  split at ok
  · simp at ok
  rename_i mainRoutePath routeIter
  obtain ⟨mainRouteName, main, checked⟩ := Option.bind_eq_some.1 ok
  split at checked
  · simp at checked
  rename_i sameMain
  obtain ⟨exit, selected, finished⟩ :=
    Option.bind_eq_some.1 (by simpa only [pure_bind] using checked)
  rcases selectRoute_cases selected with rfl | rfl | ⟨i, route, routePath, rest, mem, same, sliced,
    ⟨more, segments⟩, advanced, rfl⟩
  · simp [IndexSet.getIndex, IndexSet.len] at finished
  · simp at finished
  have at_i : device.routeConfigs.toList[i]? = some route := List.mem_enum_iff_getElem?.1 mem
  have iter : routeIter = splitTerminator routePath ++ more := by
    rw [segments, split]
    rfl
  subst iter
  rw [advance_append] at advanced
  cases advanced
  have shape : splitTerminator (stripSuffixSlash path) =
      first :: mainRouteName :: (splitTerminator routePath ++ rest) := by
    rw [split, not_not.1 sameMain]
  split_ifs at finished with empty
  · simp only [Option.pure_def, Option.some.injEq, Except.ok.injEq, RouteInfo.mk.injEq] at finished
    obtain ⟨rfl, rfl⟩ := finished
    exact ⟨route, first, mainRouteName, routePath, rest, at_i, same, main, sliced, notWhole, shape,
      fun _ => parseGetParameters_ok (by
        simp [parseGetParameters, parseGetParametersLoop, List.isEmpty_iff.1 empty])⟩
  · simp only [IndexSet.getIndex, at_i, Option.pure_def, Option.some.injEq] at finished
    generalize parsed : (match method with
      | .get => parseGetParameters parsers route rest
      | _ => parseHeadersParameters parsers route headers body) = result at finished
    cases result <;> simp only [Except.map, Except.ok.injEq, RouteInfo.mk.injEq,
      reduceCtorEq] at finished
    obtain ⟨rfl, rfl⟩ := finished
    refine ⟨route, first, mainRouteName, routePath, rest, at_i, same, main, sliced, notWhole,
      shape, fun get => ?_⟩
    subst get
    exact parseGetParameters_ok (by simpa using parsed)

end Accepted

/-- The light's `GET /on` route answers `/light/on`. -/
theorem lightWith_on_accepted :
    ∃ route, (lightWith ["/on"]).routeConfigs.toList[0]? = some route ∧
      Method.get = methodMap route.restKind :=
  let ⟨route, _, _, _, _, at_zero, same, _⟩ :=
    @analyzeRoute_ok _ Unit noParsers (lightWith ["/on"]) .get "/light/on" [] (.ok []) 0 [] rfl
  ⟨route, at_zero, same⟩

/-- A path whose first segment is not empty still reaches a route: `x/light/on` splits into
`x`, `light` and `on`, and `analyze_route` accepts it as `/light/on`. -/
theorem analyzeRoute_accepts_unrooted_path :
    analyzeRoute noParsers (lightWith ["/on"]) .get "x/light/on" [] (.ok []) =
        some (.ok ⟨0, []⟩) ∧
      splitTerminator (stripSuffixSlash "x/light/on") = ["x", "light", "on"] :=
  ⟨rfl, by decide⟩

/-! ## Which route a request reaches -/

/-- The segments of a route's own path, as the route-selection loop computes them. -/
def RouteConfig.segments (route : RouteConfig) : List String :=
  ((sliceFrom1 route.data.path).map splitTerminator).getD []

/-- A route answers a request of method `method` whose segments after the main route are
`rest`: it has that method and its own segments start `rest`. -/
def RouteConfig.answers (route : RouteConfig) (method : Method) (rest : List String) : Bool :=
  method == methodMap route.restKind && route.segments.isPrefixOf rest

/-- What `analyze_route` answers once it has selected `route` at `index`, with `rest` the
request's segments after the route's own. -/
def routeResult (parsers : Parsers) (route : RouteConfig) (index : Nat) (method : Method)
    (rest : List String) (headers : Headers) (body : Body) : Except Response RouteInfo :=
  if route.data.parameters.isEmpty then .ok ⟨index, []⟩
  else
    (match method with
      | .get => parseGetParameters parsers route rest
      | _ => parseHeadersParameters parsers route headers body).map (RouteInfo.mk index)

/-- Over routes whose paths can be sliced, the route-selection loop stops at the first route
that answers the request. -/
theorem selectRoute_first_answering {method : Method} {path : String} {rest : List String}
    (segments : (splitTerminator path).drop 2 = rest) {routes : List RouteConfig}
    (sliceable : ∀ route ∈ routes, (sliceFrom1 route.data.path).isSome)
    {j : Nat} {route : RouteConfig} (at_j : routes[j]? = some route)
    (answers : route.answers method rest = true)
    (first : ∀ k < j, ∀ other, routes[k]? = some other → other.answers method rest = false)
    (n routeIndex : Nat) :
    selectRoute method path (routes.enumFrom n) routeIndex rest =
      some (if route.data.parameters.isEmpty then .returned (.ok ⟨n + j, []⟩)
        else .exited (n + j) (rest.drop route.segments.length)) := by
  subst segments
  induction routes generalizing n j with
  | nil => simp at at_j
  | cons head routes ih =>
    obtain ⟨headPath, sliced⟩ := Option.isSome_iff_exists.1 (sliceable head (List.mem_cons_self _ _))
    cases j with
    | zero =>
      simp only [List.getElem?_cons_zero, Option.some.injEq] at at_j
      subst at_j
      simp only [RouteConfig.answers, RouteConfig.segments, sliced, Option.map_some',
        Option.getD_some, Bool.and_eq_true, beq_iff_eq, List.isPrefixOf_iff_prefix] at answers
      obtain ⟨same, more, segments⟩ := answers
      have matched : (splitTerminator headPath).isPrefixOf (splitTerminator headPath ++ more) :=
        List.isPrefixOf_iff_prefix.2 (List.prefix_append _ _)
      simp only [selectRoute, same, ne_eq, not_true_eq_false, if_false, sliced, Option.bind_eq_bind,
        Option.some_bind, ← segments, matched, Bool.not_true, Bool.false_eq_true, advance_append,
        RouteConfig.segments, Option.map_some', Option.getD_some, List.drop_left, Nat.add_zero]
      split <;> rfl
    | succ j =>
      have rest := ih (fun other mem => sliceable other (List.mem_cons_of_mem _ mem)) (j := j)
        (by simpa using at_j) (n + 1)
        (fun k lt other at_k => first (k + 1) (by omega) other (by simpa using at_k))
      have skipped := first 0 (Nat.zero_lt_succ _) head List.getElem?_cons_zero
      rw [show n + 1 + j = n + (j + 1) by omega] at rest
      by_cases same : method = methodMap head.restKind
      · subst same
        simp only [RouteConfig.answers, RouteConfig.segments, sliced, beq_self_eq_true,
          Option.map_some', Option.getD_some, Bool.true_and] at skipped
        simp [selectRoute, sliced, skipped, rest]
      · simp [selectRoute, same, rest]

theorem RouteConfig.segments_of_joinSegments {route : RouteConfig} {segments : List String}
    (routePath : route.data.path = joinSegments segments) (nonempty : segments ≠ [])
    (wellFormed : ∀ segment ∈ segments, IsSegment segment) : route.segments = segments := by
  obtain ⟨segment, rest, rfl⟩ := List.exists_cons_of_ne_nil nonempty
  rw [RouteConfig.segments, routePath, String.ext data_joinSegments, sliceFrom1_slash_cons,
    Option.map_some', Option.getD_some, splitTerminator_intercalate nonempty wellFormed]

section Resolved

variable [BEq RouteConfig] {S : Type}

/-- On a device whose main route and route paths can be sliced, take a route `route` and a
request under its method whose segments are the main route's name, the segments of
`route` and further segments. The request reaches the first route under that method whose
segments start the request's. -/
theorem analyzeRoute_of_segments (parsers : Parsers)
    (device : InternalDevice S) (headers : Headers) (body : Body) {mainRouteName : String}
    (main : sliceFrom1 device.mainRoute = some mainRouteName)
    (sliceable : ∀ route ∈ device.routeConfigs.toList, (sliceFrom1 route.data.path).isSome)
    {i : Nat} {route : RouteConfig} (at_i : device.routeConfigs.toList[i]? = some route)
    (path : String) (parameters : List String)
    (split : splitTerminator (stripSuffixSlash path) =
      "" :: mainRouteName :: (route.segments ++ parameters)) :
    ∃ j selected, j ≤ i ∧ device.routeConfigs.toList[j]? = some selected ∧
      selected.answers (methodMap route.restKind) (route.segments ++ parameters) ∧
      (∀ k < j, ∀ other, device.routeConfigs.toList[k]? = some other →
        other.answers (methodMap route.restKind) (route.segments ++ parameters) = false) ∧
      analyzeRoute parsers device (methodMap route.restKind) path headers body =
        some (routeResult parsers selected j (methodMap route.restKind)
          ((route.segments ++ parameters).drop selected.segments.length) headers body) := by
  set rest := route.segments ++ parameters
  set method := methodMap route.restKind
  have answers_i : route.answers method rest = true := by
    simp [RouteConfig.answers, method, rest, List.isPrefixOf_iff_prefix]
  have answering : ∃ k, (device.routeConfigs.toList[k]?.map
      fun (other : RouteConfig) => other.answers method rest) = some true :=
    ⟨i, by simp [at_i, answers_i]⟩
  obtain ⟨j, selected, le, at_j, answers, first⟩ : ∃ j selected, j ≤ i ∧
      device.routeConfigs.toList[j]? = some selected ∧ selected.answers method rest = true ∧
      ∀ k < j, ∀ other, device.routeConfigs.toList[k]? = some other →
        other.answers method rest = false := by
    obtain ⟨selected, at_j, answers⟩ := Option.map_eq_some'.1 (Nat.find_spec answering)
    exact ⟨_, selected, Nat.find_min' answering (by simp [at_i, answers_i]), at_j, answers,
      fun k lt other at_k => by simpa [at_k] using Nat.find_min answering lt⟩
  have notWhole : "" ≠ stripSuffixSlash path := fun whole => by
    have empty : splitTerminator "" = [] := by decide
    rw [← whole, empty] at split
    cases split
  have loop := selectRoute_first_answering (by rw [split]; rfl) sliceable at_j answers first 0
    device.routeConfigs.len
  refine ⟨j, selected, le, at_j, answers, first, ?_⟩
  simp only [analyzeRoute, split, if_neg notWhole, main, Option.bind_eq_bind, Option.some_bind,
    ne_eq, not_true_eq_false, if_false, pure_bind]
  rw [show device.routeConfigs.toList.enum = device.routeConfigs.toList.enumFrom 0 from rfl, loop]
  split_ifs with empty <;> simp [routeResult, empty, IndexSet.getIndex, at_j]

/-- Take a device whose route paths start with `/` and whose main route is `/` and a
name, a route `route` at position `i` whose path is `/` and segments, and the request under
`route`'s method for `/`, the main route's name, `route`'s path and parameter segments.
The route-selection loop resolves it to the first position `j` whose route has that method
and segments that start the request's after the main route: that route answers, no route
before `j` does, `j ≤ i`, and `j = i` exactly when no earlier route under the same method has
such segments. -/
theorem analyzeRoute_resolves_first_answering_route (parsers : Parsers)
    (device : InternalDevice S) (headers : Headers) (body : Body) {mainRouteName : String}
    (main : device.mainRoute = "/" ++ mainRouteName)
    (rooted : ∀ route ∈ device.routeConfigs.toList, route.data.path.data.head? = some '/')
    {i : Nat} {route : RouteConfig} (at_i : device.routeConfigs.toList[i]? = some route)
    {routeSegments : List String} (routePath : route.data.path = joinSegments routeSegments)
    (nonempty : routeSegments ≠ []) (parameters : List String)
    (wellFormed : ∀ segment ∈ mainRouteName :: (routeSegments ++ parameters), IsSegment segment) :
    ∃ j selected, j ≤ i ∧ device.routeConfigs.toList[j]? = some selected ∧
      selected.answers (methodMap route.restKind) (routeSegments ++ parameters) ∧
      (∀ k < j, ∀ other, device.routeConfigs.toList[k]? = some other →
        other.answers (methodMap route.restKind) (routeSegments ++ parameters) = false) ∧
      (j = i ↔ ∀ k < i, ∀ other, device.routeConfigs.toList[k]? = some other →
        other.answers (methodMap route.restKind) (routeSegments ++ parameters) = false) ∧
      analyzeRoute parsers device (methodMap route.restKind)
          ("/" ++ mainRouteName ++ route.data.path ++ joinSegments parameters) headers body =
        some (routeResult parsers selected j (methodMap route.restKind)
          ((routeSegments ++ parameters).drop selected.segments.length) headers body) := by
  have own : route.segments = routeSegments := RouteConfig.segments_of_joinSegments routePath
    nonempty fun segment mem => wellFormed segment (by simp [mem])
  have request : "/" ++ mainRouteName ++ route.data.path ++ joinSegments parameters =
      joinSegments (mainRouteName :: (routeSegments ++ parameters)) := by
    apply String.ext
    simp [routePath, joinSegments, String.data_join]
  have split : splitTerminator (stripSuffixSlash
      ("/" ++ mainRouteName ++ route.data.path ++ joinSegments parameters)) =
        "" :: mainRouteName :: (route.segments ++ parameters) := by
    rw [request, stripSuffixSlash_joinSegments wellFormed,
      splitTerminator_joinSegments (List.cons_ne_nil _ _) wellFormed, own]
  obtain ⟨j, selected, le, at_j, answers, first, resolved⟩ := analyzeRoute_of_segments parsers
    device headers body (by rw [main]; rfl)
    (fun other mem => sliceFrom1_isSome (rooted other mem)) at_i _ parameters split
  rw [own] at answers first resolved
  refine ⟨j, selected, le, at_j, answers, first,
    ⟨fun same k lt => first k (same ▸ lt), fun none => ?_⟩, resolved⟩
  by_contra different
  exact absurd answers (by simp [none j (by omega) selected at_j])

end Resolved

/-- On the light with `GET /a` and then `GET /a/b`, the request for `/a/b` resolves to
position 0: `/a` answers it, so it is the first route that does. -/
theorem lightWith_resolves_a_b :
    analyzeRoute noParsers (lightWith ["/a", "/a/b"]) .get "/light/a/b" [] (.ok []) =
      some (.ok ⟨0, []⟩) := by
  obtain ⟨j, selected, -, at_j, -, first, -, resolved⟩ :=
    @analyzeRoute_resolves_first_answering_route _ Unit noParsers (lightWith ["/a", "/a/b"]) []
      (.ok []) "light" (by decide) (by decide) 1 (getRoute "/a/b") rfl ["a", "b"] (by decide)
      (by decide) [] (by decide)
  obtain rfl : j = 0 := by
    by_contra later
    exact absurd (first 0 (by omega) (getRoute "/a") rfl) (by decide)
  obtain rfl : selected = getRoute "/a" := (Option.some.inj at_j).symm
  exact resolved

/-- With `GET /a` registered before `GET /a/b`, the request `/light/a/b` for the route at
position 1 reaches position 0. -/
theorem analyzeRoute_shadows_longer_route :
    (lightWith ["/a", "/a/b"]).routeConfigs.toList = [getRoute "/a", getRoute "/a/b"] ∧
      analyzeRoute noParsers (lightWith ["/a", "/a/b"]) .get "/light/a/b" [] (.ok []) =
        some (.ok ⟨0, []⟩) :=
  ⟨rfl, rfl⟩

end Tosca.Firmware
