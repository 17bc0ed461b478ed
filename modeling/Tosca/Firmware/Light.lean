/-
# Building a light and dispatching to its handlers

A firmware device is built route by route. Each route-adding call of `CompleteLight`
stores the route's configuration in the device description and its handler in one of six
vectors, one per handler type, and records in `index_array` which vector and which
position serve the route. `ServerHandler::run_function(i)` later follows `index_array[i]`.
The design only works if position `i` of `index_array` belongs to position `i` of the
route configurations, which the builder never checks: it holds because a call either adds
one configuration and one index, or, for a duplicate route, changes nothing.

The model states what the built device is for, as the list of routes it serves, each with
the handler passed along with it (`served`), and proves that the builder represents that
list (`Represents`) after every sequence of calls, so that `run_function` calls the right
handler with the advertised response family.

The conversion `route.remove_prohibited_hazards(ALLOWED_HAZARDS).serialize_data()` of
`tosca::route` is not among the sources; it is the parameter `toRouteConfig`. A handler's
future is modelled by the result it resolves to.
-/

import Tosca.Firmware.Route

namespace Tosca.Firmware

/-- `ValueFromRef`: how a stateful handler gets its own copy of the device state. -/
class ValueFromRef (S : Type) where
  valueFromRef : S → S

instance : ValueFromRef Unit := ⟨fun _ => ()⟩

/-! ## Handlers -/

/-- `OkFn`. -/
abbrev OkFn := ParametersPayloads → Except ErrorResponse OkResponse

/-- `OkStateFn<S>`. -/
abbrev OkStateFn (S : Type) := S → ParametersPayloads → Except ErrorResponse OkResponse

/-- `SerialFn`. -/
abbrev SerialFn := ParametersPayloads → Except ErrorResponse SerialResponse

/-- `SerialStateFn<S>`. -/
abbrev SerialStateFn (S : Type) := S → ParametersPayloads → Except ErrorResponse SerialResponse

/-- `InfoFn`. -/
abbrev InfoFn := ParametersPayloads → Except ErrorResponse InfoResponse

/-- `InfoStateFn<S>`. -/
abbrev InfoStateFn (S : Type) := S → ParametersPayloads → Except ErrorResponse InfoResponse

/-- `FuncType`: which of the six handler vectors serves a route. -/
inductive FuncType
  | okStateless | okStateful | serialStateless | serialStateful | infoStateless | infoStateful
  deriving DecidableEq, Repr

namespace FuncType

/-- The handler type a vector holds. -/
def Handler (S : Type) : FuncType → Type
  | okStateless => OkFn
  | okStateful => OkStateFn S
  | serialStateless => SerialFn
  | serialStateful => SerialStateFn S
  | infoStateless => InfoFn
  | infoStateful => InfoStateFn S

/-- The response family of a handler type. -/
def responseKind : FuncType → ResponseKind
  | okStateless | okStateful => .ok
  | serialStateless | serialStateful => .serial
  | infoStateless | infoStateful => .info

end FuncType

/-- `FuncIndex`: a vector and a position in it. -/
structure FuncIndex where
  funcType : FuncType
  index : Nat

/-- A handler of any of the six types. -/
structure RouteHandler (S : Type) where
  funcType : FuncType
  func : funcType.Handler S

/-- Run a handler on the state copy it gets and the request's parameters. -/
def RouteHandler.call {S : Type} (state : S) : RouteHandler S → ParametersPayloads → Response
  | ⟨.okStateless, func⟩, payloads => Response.ofOk (func payloads)
  | ⟨.okStateful, func⟩, payloads => Response.ofOk (func state payloads)
  | ⟨.serialStateless, func⟩, payloads => Response.ofSerial (func payloads)
  | ⟨.serialStateful, func⟩, payloads => Response.ofSerial (func state payloads)
  | ⟨.infoStateless, func⟩, payloads => Response.ofInfo (func payloads)
  | ⟨.infoStateful, func⟩, payloads => Response.ofInfo (func state payloads)

/-- `Functions<S>`: the six handler vectors. -/
structure Functions (S : Type) where
  okStateless : List OkFn
  okStateful : List (OkStateFn S)
  serialStateless : List SerialFn
  serialStateful : List (SerialStateFn S)
  infoStateless : List InfoFn
  infoStateful : List (InfoStateFn S)

namespace Functions

variable {S : Type}

/-- No handlers. -/
def empty : Functions S := ⟨[], [], [], [], [], []⟩

/-- The vector of one handler type. -/
def vec (fs : Functions S) : (t : FuncType) → List (t.Handler S)
  | .okStateless => fs.okStateless
  | .okStateful => fs.okStateful
  | .serialStateless => fs.serialStateless
  | .serialStateful => fs.serialStateful
  | .infoStateless => fs.infoStateless
  | .infoStateful => fs.infoStateful

/-- `push` onto the vector of one handler type. -/
def push (fs : Functions S) : (t : FuncType) → t.Handler S → Functions S
  | .okStateless, f => { fs with okStateless := fs.okStateless.concat f }
  | .okStateful, f => { fs with okStateful := fs.okStateful.concat f }
  | .serialStateless, f => { fs with serialStateless := fs.serialStateless.concat f }
  | .serialStateful, f => { fs with serialStateful := fs.serialStateful.concat f }
  | .infoStateless, f => { fs with infoStateless := fs.infoStateless.concat f }
  | .infoStateful, f => { fs with infoStateful := fs.infoStateful.concat f }

/-- The handler a function index names, if its vector is long enough. -/
def lookup (fs : Functions S) (fi : FuncIndex) : Option (RouteHandler S) :=
  ((fs.vec fi.funcType)[fi.index]?).map (⟨fi.funcType, ·⟩)

@[simp] theorem vec_push_self (fs : Functions S) (t : FuncType) (f : t.Handler S) :
    (fs.push t f).vec t = fs.vec t ++ [f] := by
  cases t <;> exact List.concat_eq_append ..

theorem vec_push_of_ne (fs : Functions S) {t t' : FuncType} (f : t.Handler S) (ne : t' ≠ t) :
    (fs.push t f).vec t' = fs.vec t' := by
  cases t <;> cases t' <;> first | rfl | exact absurd rfl ne

/-- Pushing a handler keeps what every index named before. -/
theorem lookup_push_of_lookup (fs : Functions S) (t : FuncType) (f : t.Handler S)
    {fi : FuncIndex} {handler : RouteHandler S} (found : fs.lookup fi = some handler) :
    (fs.push t f).lookup fi = some handler := by
  by_cases same : fi.funcType = t
  · obtain ⟨funcType, index⟩ := fi
    simp only at same
    subst same
    obtain ⟨func, at_index, rfl⟩ := Option.map_eq_some'.1 found
    simp [lookup, List.getElem?_append_left (List.getElem?_eq_some_iff.1 at_index).1, at_index]
  · simpa [lookup, vec_push_of_ne fs f same] using found

/-- The index of the handler just pushed names it. -/
theorem lookup_push_last (fs : Functions S) (t : FuncType) (f : t.Handler S) :
    (fs.push t f).lookup ⟨t, ((fs.push t f).vec t).length - 1⟩ = some ⟨t, f⟩ := by
  simp [lookup]

end Functions

/-! ## The device -/

section Device

variable [BEq RouteConfig] (S : Type)

/-- The part of `DeviceData` (of `tosca::device`, which is not among the sources) the
firmware reads or writes: the main route, the routes, and the MAC address `into_internal`
fills in. -/
structure DeviceData where
  mainRoute : String
  routeConfigs : RouteConfigs
  wifiMac : Option (List UInt8)

/-- `CompleteLight<S>`: a light under construction. -/
structure CompleteLight where
  wifiMac : List UInt8
  mainRoute : String
  state : S
  routesFunctions : Functions S
  deviceData : DeviceData
  indexArray : List FuncIndex

/-- `Device<S>`: a built device. -/
structure Device where
  wifiMac : List UInt8
  state : S
  description : DeviceData
  mainRoute : String
  routesFunctions : Functions S
  indexArray : List FuncIndex

/-- `InternalDevice<S>`: what the server holds. -/
structure InternalDevice where
  state : S
  mainRoute : String
  mainRouteResponse : Response
  routesFunctions : Functions S
  indexArray : List FuncIndex
  routeConfigs : RouteConfigs

end Device

variable [BEq RouteConfig] {S : Type}

/-- `MAIN_ROUTE`. -/
def mainRouteDefault : String := "/light"

namespace CompleteLight

/-- `CompleteLight::with_state`: no routes yet, under the default main route. -/
def withState (wifiMac : List UInt8) (state : S) : CompleteLight S :=
  ⟨wifiMac, mainRouteDefault, state, .empty, ⟨mainRouteDefault, .empty, none⟩, []⟩

/-- `main_route` (renamed: the structure has a field of that name). -/
def setMainRoute (light : CompleteLight S) (mainRoute : String) : CompleteLight S :=
  { light with mainRoute, deviceData := { light.deviceData with mainRoute } }

section Routes

variable {Route : Type} (toRouteConfig : Route → RouteConfig)

/-- `route_func_manager`: refuse a route whose configuration is already there, otherwise
store it and let `addAsyncFunction` store its handler. -/
def routeFuncManager (light : CompleteLight S) (route : Route) (responseKind : ResponseKind)
    (addAsyncFunction : CompleteLight S → CompleteLight S) : CompleteLight S :=
  let routeConfig := (toRouteConfig route).changeResponseKind responseKind
  if light.deviceData.routeConfigs.contains routeConfig then light
  else
    addAsyncFunction
      { light with deviceData :=
          { light.deviceData with routeConfigs := light.deviceData.routeConfigs.add routeConfig } }

/-- The six route-adding methods, which differ only in the response kind they advertise and
the vector their handler goes to. -/
def addRoute (light : CompleteLight S) (route : Route) (responseKind : ResponseKind)
    (funcType : FuncType) (func : funcType.Handler S) : CompleteLight S :=
  light.routeFuncManager toRouteConfig route responseKind fun funcManager =>
    let routesFunctions := funcManager.routesFunctions.push funcType func
    { funcManager with
      routesFunctions
      indexArray := funcManager.indexArray ++
        [⟨funcType, (routesFunctions.vec funcType).length - 1⟩] }

/-- `stateless_ok_route`. -/
def statelessOkRoute (light : CompleteLight S) (route : Route) (func : OkFn) : CompleteLight S :=
  light.addRoute toRouteConfig route .ok .okStateless func

/-- `stateful_ok_route`. -/
def statefulOkRoute (light : CompleteLight S) (route : Route) (func : OkStateFn S) :
    CompleteLight S :=
  light.addRoute toRouteConfig route .ok .okStateful func

/-- `stateless_serial_route`. -/
def statelessSerialRoute (light : CompleteLight S) (route : Route) (func : SerialFn) :
    CompleteLight S :=
  light.addRoute toRouteConfig route .serial .serialStateless func

/-- `stateful_serial_route`. -/
def statefulSerialRoute (light : CompleteLight S) (route : Route) (func : SerialStateFn S) :
    CompleteLight S :=
  light.addRoute toRouteConfig route .serial .serialStateful func

/-- `stateless_info_route`. -/
def statelessInfoRoute (light : CompleteLight S) (route : Route) (func : InfoFn) :
    CompleteLight S :=
  light.addRoute toRouteConfig route .info .infoStateless func

/-- `stateful_info_route`. -/
def statefulInfoRoute (light : CompleteLight S) (route : Route) (func : InfoStateFn S) :
    CompleteLight S :=
  light.addRoute toRouteConfig route .info .infoStateful func

end Routes

/-- `build`. -/
def build (light : CompleteLight S) : Device S :=
  ⟨light.wifiMac, light.state, light.deviceData, light.mainRoute, light.routesFunctions,
    light.indexArray⟩

end CompleteLight

/-- `into_internal`: the description, with the MAC address filled in, becomes the main
route's response (its JSON serialization is the parameter `serialize`). -/
def Device.intoInternal (serialize : DeviceData → String) (device : Device S) :
    InternalDevice S :=
  let description := { device.description with wifiMac := some device.wifiMac }
  ⟨device.state, device.mainRoute, .json (serialize description), device.routesFunctions,
    device.indexArray, description.routeConfigs⟩

/-- `ServerHandler::run_function`: follow `index_array[index]` to a handler and run it;
`none` where an index is out of bounds and Rust panics. -/
def InternalDevice.runFunction [ValueFromRef S] (device : InternalDevice S) (index : Nat)
    (payloads : ParametersPayloads) : Option Response := do
  let funcIndex ← device.indexArray[index]?
  let state := ValueFromRef.valueFromRef device.state
  match funcIndex.funcType with
  | .okStateless =>
    let func ← device.routesFunctions.okStateless[funcIndex.index]?
    pure (Response.ofOk (func payloads))
  | .okStateful =>
    let func ← device.routesFunctions.okStateful[funcIndex.index]?
    pure (Response.ofOk (func state payloads))
  | .serialStateless =>
    let func ← device.routesFunctions.serialStateless[funcIndex.index]?
    pure (Response.ofSerial (func payloads))
  | .serialStateful =>
    let func ← device.routesFunctions.serialStateful[funcIndex.index]?
    pure (Response.ofSerial (func state payloads))
  | .infoStateless =>
    let func ← device.routesFunctions.infoStateless[funcIndex.index]?
    pure (Response.ofInfo (func payloads))
  | .infoStateful =>
    let func ← device.routesFunctions.infoStateful[funcIndex.index]?
    pure (Response.ofInfo (func state payloads))

/-- `run_function` runs the handler its function index names. -/
theorem InternalDevice.runFunction_of_lookup [ValueFromRef S] (device : InternalDevice S)
    {index : Nat} {fi : FuncIndex} {handler : RouteHandler S}
    (at_index : device.indexArray[index]? = some fi)
    (found : device.routesFunctions.lookup fi = some handler) (payloads : ParametersPayloads) :
    device.runFunction index payloads =
      some (handler.call (ValueFromRef.valueFromRef device.state) payloads) := by
  obtain ⟨funcType, position⟩ := fi
  obtain ⟨func, at_position, rfl⟩ := Option.map_eq_some'.1 found
  cases funcType <;>
    exact (congrArg (Option.bind · _) at_index).trans
      ((congrArg (Option.bind · _) at_position).trans rfl)

/-! ## What a light serves -/

/-- A call of the builder: a new main route, or one of the six route-adding methods. -/
inductive LightCall (Route S : Type)
  | mainRoute (mainRoute : String)
  | statelessOkRoute (route : Route) (func : OkFn)
  | statefulOkRoute (route : Route) (func : OkStateFn S)
  | statelessSerialRoute (route : Route) (func : SerialFn)
  | statefulSerialRoute (route : Route) (func : SerialStateFn S)
  | statelessInfoRoute (route : Route) (func : InfoFn)
  | statefulInfoRoute (route : Route) (func : InfoStateFn S)

section Serves

variable {Route : Type} (toRouteConfig : Route → RouteConfig)

namespace LightCall

/-- Make the call. -/
def apply (light : CompleteLight S) : LightCall Route S → CompleteLight S
  | mainRoute path => light.setMainRoute path
  | statelessOkRoute route func => light.statelessOkRoute toRouteConfig route func
  | statefulOkRoute route func => light.statefulOkRoute toRouteConfig route func
  | statelessSerialRoute route func => light.statelessSerialRoute toRouteConfig route func
  | statefulSerialRoute route func => light.statefulSerialRoute toRouteConfig route func
  | statelessInfoRoute route func => light.statelessInfoRoute toRouteConfig route func
  | statefulInfoRoute route func => light.statefulInfoRoute toRouteConfig route func

/-- The route a call adds, with its handler. -/
def added : LightCall Route S → Option (Route × RouteHandler S)
  | mainRoute _ => none
  | statelessOkRoute route func => some (route, ⟨.okStateless, func⟩)
  | statefulOkRoute route func => some (route, ⟨.okStateful, func⟩)
  | statelessSerialRoute route func => some (route, ⟨.serialStateless, func⟩)
  | statefulSerialRoute route func => some (route, ⟨.serialStateful, func⟩)
  | statelessInfoRoute route func => some (route, ⟨.infoStateless, func⟩)
  | statefulInfoRoute route func => some (route, ⟨.infoStateful, func⟩)

/-- Each route-adding method advertises the response family of its handler. -/
theorem apply_of_added (light : CompleteLight S) {call : LightCall Route S} {route : Route}
    {handler : RouteHandler S} (adds : call.added = some (route, handler)) :
    call.apply toRouteConfig light =
      light.addRoute toRouteConfig route handler.funcType.responseKind handler.funcType
        handler.func := by
  cases call <;> cases adds <;> rfl

end LightCall

/-- The routes served once `config` is offered with `handler`: a configuration already
served is refused. -/
def serveRoute (served : List (RouteConfig × RouteHandler S)) (config : RouteConfig)
    (handler : RouteHandler S) : List (RouteConfig × RouteHandler S) :=
  if (served.map Prod.fst).contains config then served else served ++ [(config, handler)]

/-- The routes served after one more call. -/
def serve (served : List (RouteConfig × RouteHandler S)) (call : LightCall Route S) :
    List (RouteConfig × RouteHandler S) :=
  match call.added with
  | none => served
  | some (route, handler) =>
    serveRoute served ((toRouteConfig route).changeResponseKind handler.funcType.responseKind)
      handler

/-- What a device built by `calls` is for: the routes it serves, in order, each with the
handler passed along with it. -/
def served (calls : List (LightCall Route S)) : List (RouteConfig × RouteHandler S) :=
  calls.foldl (serve toRouteConfig) []

/-- A light under construction serves `served`: its configurations are those of `served`,
and position `i` of `index_array` names the handler of the `i`-th, whose response family
is the one its configuration advertises. -/
structure CompleteLight.Represents (light : CompleteLight S)
    (served : List (RouteConfig × RouteHandler S)) : Prop where
  routes : light.deviceData.routeConfigs.toList = served.map Prod.fst
  indices : light.indexArray.length = served.length
  handlers : ∀ (i : Nat) (entry : RouteConfig × RouteHandler S), served[i]? = some entry →
    ∃ fi, light.indexArray[i]? = some fi ∧ light.routesFunctions.lookup fi = some entry.2
  kinds : ∀ entry ∈ served, entry.2.funcType.responseKind = entry.1.responseKind

namespace CompleteLight

theorem represents_withState (wifiMac : List UInt8) (state : S) :
    (withState wifiMac state).Represents [] :=
  ⟨rfl, rfl, fun _ _ at_i => by simp at at_i, fun _ mem => by simp at mem⟩

/-- A duplicate route changes nothing. -/
theorem addRoute_of_contains (light : CompleteLight S) (route : Route)
    (responseKind : ResponseKind) (funcType : FuncType) (func : funcType.Handler S)
    (held : light.deviceData.routeConfigs.contains
      ((toRouteConfig route).changeResponseKind responseKind) = true) :
    light.addRoute toRouteConfig route responseKind funcType func = light := by
  simp [addRoute, routeFuncManager, held]

/-- A route-adding method leaves the state alone. -/
theorem state_addRoute (light : CompleteLight S) (route : Route) (responseKind : ResponseKind)
    (funcType : FuncType) (func : funcType.Handler S) :
    (light.addRoute toRouteConfig route responseKind funcType func).state = light.state := by
  dsimp only [addRoute, routeFuncManager]
  split <;> rfl

theorem Represents.setMainRoute {light : CompleteLight S} {served : List (RouteConfig × RouteHandler S)}
    (rep : light.Represents served) (mainRoute : String) :
    (light.setMainRoute mainRoute).Represents served :=
  ⟨rep.routes, rep.indices, rep.handlers, rep.kinds⟩

/-- A route-adding method keeps the light representing what it serves. -/
theorem Represents.addRoute {light : CompleteLight S} {served : List (RouteConfig × RouteHandler S)}
    (rep : light.Represents served) (route : Route) (handler : RouteHandler S) :
    (light.addRoute toRouteConfig route handler.funcType.responseKind handler.funcType
      handler.func).Represents
      (serveRoute served ((toRouteConfig route).changeResponseKind handler.funcType.responseKind)
        handler) := by
  obtain ⟨funcType, func⟩ := handler
  set config := (toRouteConfig route).changeResponseKind funcType.responseKind
  have same : light.deviceData.routeConfigs.contains config = (served.map Prod.fst).contains config := by
    rw [IndexSet.contains, rep.routes]
  cases held : light.deviceData.routeConfigs.contains config
  · simp only [CompleteLight.addRoute, routeFuncManager, serveRoute, ← same, held,
      Bool.false_eq_true, if_false]
    refine ⟨by simp [IndexSet.toList_add_of_fresh held, rep.routes], by simp [rep.indices], fun i entry at_i => ?_,
      fun entry mem => ?_⟩
    · rw [List.getElem?_append] at at_i
      split_ifs at at_i with lt
      · obtain ⟨fi, at_fi, found⟩ := rep.handlers i entry at_i
        exact ⟨fi, by simp [List.getElem?_append_left (rep.indices ▸ lt), at_fi],
          Functions.lookup_push_of_lookup _ _ _ found⟩
      · have last : i = served.length := by
          have := (List.getElem?_eq_some_iff.1 at_i).1
          simp at this
          omega
        subst last
        simp only [Nat.sub_self, List.getElem?_cons_zero, Option.some.injEq] at at_i
        subst at_i
        exact ⟨_, by simp [← rep.indices], Functions.lookup_push_last _ _ _⟩
    · rcases List.mem_append.1 mem with old | new
      · exact rep.kinds entry old
      · rw [List.mem_singleton] at new
        subst new
        rfl
  · simpa [serveRoute, ← same, held, addRoute_of_contains toRouteConfig light route _ _ _ held]
      using rep

/-- No call touches the state. -/
theorem state_foldl_apply (light : CompleteLight S) (calls : List (LightCall Route S)) :
    (calls.foldl (LightCall.apply toRouteConfig) light).state = light.state := by
  induction calls generalizing light with
  | nil => rfl
  | cons call calls ih =>
    refine (ih _).trans ?_
    cases call
    case mainRoute => rfl
    all_goals exact state_addRoute toRouteConfig ..

/-- Every call keeps the light representing what it serves. -/
theorem Represents.apply {light : CompleteLight S} {served : List (RouteConfig × RouteHandler S)}
    (rep : light.Represents served) (call : LightCall Route S) :
    (call.apply toRouteConfig light).Represents (serve toRouteConfig served call) := by
  cases adds : call.added with
  | none =>
    cases call <;> cases adds
    exact rep.setMainRoute _
  | some added =>
    obtain ⟨route, handler⟩ := added
    simp only [serve, adds, LightCall.apply_of_added toRouteConfig light adds]
    exact rep.addRoute toRouteConfig route handler

/-- So does every sequence of calls. -/
theorem Represents.foldl {light : CompleteLight S} {served : List (RouteConfig × RouteHandler S)}
    (rep : light.Represents served) (calls : List (LightCall Route S)) :
    (calls.foldl (LightCall.apply toRouteConfig) light).Represents
      (calls.foldl (serve toRouteConfig) served) := by
  induction calls generalizing light served with
  | nil => exact rep
  | cons call calls ih => exact ih (rep.apply toRouteConfig call)

end CompleteLight

/-- Whatever routes are added to a light, duplicates included, the built device has one
function index per route configuration; `run_function(i)` stays in bounds and runs the
handler passed along with the `i`-th configuration, whose response family that
configuration advertises; and a call refused as a duplicate changes nothing. -/
theorem runFunction_serves_every_route [ValueFromRef S] (serialize : DeviceData → String)
    (wifiMac : List UInt8) (state : S) (calls : List (LightCall Route S)) :
    let device := ((calls.foldl (LightCall.apply toRouteConfig)
      (CompleteLight.withState wifiMac state)).build).intoInternal serialize
    device.routeConfigs.toList = (served toRouteConfig calls).map Prod.fst ∧
      device.indexArray.length = device.routeConfigs.len ∧
      (∀ i config handler, (served toRouteConfig calls)[i]? = some (config, handler) →
        handler.funcType.responseKind = config.responseKind ∧
        ∀ payloads, device.runFunction i payloads =
          some (handler.call (ValueFromRef.valueFromRef state) payloads)) ∧
      ∀ (light : CompleteLight S) (call : LightCall Route S) route handler,
        call.added = some (route, handler) →
        light.deviceData.routeConfigs.contains
          ((toRouteConfig route).changeResponseKind handler.funcType.responseKind) = true →
        call.apply toRouteConfig light = light := by
  have rep := (CompleteLight.represents_withState wifiMac state).foldl toRouteConfig calls
  dsimp only
  refine ⟨rep.routes, ?_, fun i config handler at_i =>
    ⟨rep.kinds _ (List.getElem?_mem at_i), fun payloads => ?_⟩,
    fun light call route handler adds held => ?_⟩
  · exact rep.indices.trans ((congrArg List.length rep.routes).trans (List.length_map _ _)).symm
  · obtain ⟨fi, at_fi, found⟩ := rep.handlers i _ at_i
    let device := ((calls.foldl (LightCall.apply toRouteConfig)
      (.withState wifiMac state)).build).intoInternal serialize
    have kept : device.state = state := CompleteLight.state_foldl_apply toRouteConfig _ calls
    rw [InternalDevice.runFunction_of_lookup device at_fi found payloads, kept]
  · rw [LightCall.apply_of_added toRouteConfig light adds]
    exact CompleteLight.addRoute_of_contains toRouteConfig light route _ _ _ held

/-! ## The typestate path

`Light` and `LightOnRoute` wrap a `CompleteLight`, so a light is only built after a route that
turns it on and then one that turns it off. The route types of `tosca::route` are not among
the sources; their `into_route` conversions are the parameters `onIntoRoute` and
`offIntoRoute`. -/

/-- `Light<S>`: a light with no route yet. -/
structure Light (S : Type) where
  light : CompleteLight S

/-- `LightOnRoute<S>`: a light with its route that turns it on. -/
structure LightOnRoute (S : Type) where
  light : CompleteLight S

/-- `Light::new`: a light without a state. -/
def Light.new (wifiMac : List UInt8) : Light Unit :=
  ⟨.withState wifiMac ()⟩

/-- `Light::with_state`. -/
def Light.withState (wifiMac : List UInt8) (state : S) : Light S :=
  ⟨.withState wifiMac state⟩

/-- The four `turn_light_on_*` methods, which differ only in their handler. -/
def Light.turnLightOn (light : Light S) (route : Route) (handler : RouteHandler S) :
    LightOnRoute S :=
  ⟨light.light.addRoute toRouteConfig route handler.funcType.responseKind handler.funcType
    handler.func⟩

/-- The four `turn_light_off_*` methods, which differ only in their handler. -/
def LightOnRoute.turnLightOff (light : LightOnRoute S) (route : Route) (handler : RouteHandler S) :
    CompleteLight S :=
  light.light.addRoute toRouteConfig route handler.funcType.responseKind handler.funcType
    handler.func

section Members

variable {OnRoute OffRoute : Type} (onIntoRoute : OnRoute → Route)
  (offIntoRoute : OffRoute → Route)

/-- `turn_light_on_stateless_ok`. -/
def Light.turnLightOnStatelessOk (light : Light S) (route : OnRoute) (func : OkFn) :
    LightOnRoute S :=
  light.turnLightOn toRouteConfig (onIntoRoute route) ⟨.okStateless, func⟩

/-- `turn_light_on_stateful_ok`. -/
def Light.turnLightOnStatefulOk (light : Light S) (route : OnRoute) (func : OkStateFn S) :
    LightOnRoute S :=
  light.turnLightOn toRouteConfig (onIntoRoute route) ⟨.okStateful, func⟩

/-- `turn_light_on_stateless_serial`. -/
def Light.turnLightOnStatelessSerial (light : Light S) (route : OnRoute) (func : SerialFn) :
    LightOnRoute S :=
  light.turnLightOn toRouteConfig (onIntoRoute route) ⟨.serialStateless, func⟩

/-- `turn_light_on_stateful_serial`. -/
def Light.turnLightOnStatefulSerial (light : Light S) (route : OnRoute)
    (func : SerialStateFn S) : LightOnRoute S :=
  light.turnLightOn toRouteConfig (onIntoRoute route) ⟨.serialStateful, func⟩

/-- `turn_light_off_stateless_ok`. -/
def LightOnRoute.turnLightOffStatelessOk (light : LightOnRoute S) (route : OffRoute)
    (func : OkFn) : CompleteLight S :=
  light.turnLightOff toRouteConfig (offIntoRoute route) ⟨.okStateless, func⟩

/-- `turn_light_off_stateful_ok`. -/
def LightOnRoute.turnLightOffStatefulOk (light : LightOnRoute S) (route : OffRoute)
    (func : OkStateFn S) : CompleteLight S :=
  light.turnLightOff toRouteConfig (offIntoRoute route) ⟨.okStateful, func⟩

/-- `turn_light_off_stateless_serial`. -/
def LightOnRoute.turnLightOffStatelessSerial (light : LightOnRoute S) (route : OffRoute)
    (func : SerialFn) : CompleteLight S :=
  light.turnLightOff toRouteConfig (offIntoRoute route) ⟨.serialStateless, func⟩

/-- `turn_light_off_stateful_serial`. -/
def LightOnRoute.turnLightOffStatefulSerial (light : LightOnRoute S) (route : OffRoute)
    (func : SerialStateFn S) : CompleteLight S :=
  light.turnLightOff toRouteConfig (offIntoRoute route) ⟨.serialStateful, func⟩

end Members

theorem serve_extends (served : List (RouteConfig × RouteHandler S)) (call : LightCall Route S) :
    served <+: serve toRouteConfig served call := by
  unfold serve serveRoute
  split
  · exact List.prefix_refl _
  · split
    · exact List.prefix_refl _
    · exact List.prefix_append _ _

/-- Later calls only append to what a light serves. -/
theorem foldl_serve_extends (served : List (RouteConfig × RouteHandler S))
    (calls : List (LightCall Route S)) : served <+: calls.foldl (serve toRouteConfig) served := by
  induction calls generalizing served with
  | nil => exact List.prefix_refl _
  | cons call calls ih => exact (serve_extends toRouteConfig served call).trans (ih _)

/-- A built device advertises the configuration served at each position and runs, on its
state, the handler served there. -/
theorem CompleteLight.Represents.serves [ValueFromRef S] (serialize : DeviceData → String)
    {light : CompleteLight S} {served : List (RouteConfig × RouteHandler S)}
    (rep : light.Represents served) {state : S} (kept : light.state = state) {i : Nat}
    {config : RouteConfig} {handler : RouteHandler S}
    (at_i : served[i]? = some (config, handler)) :
    let device := light.build.intoInternal serialize
    device.routeConfigs.toList[i]? = some config ∧ ∀ payloads, device.runFunction i payloads =
      some (handler.call (ValueFromRef.valueFromRef state) payloads) := by
  subst kept
  obtain ⟨fi, at_fi, found⟩ := rep.handlers i _ at_i
  exact ⟨(congrArg (·[i]?) rep.routes).trans (by rw [List.getElem?_map, at_i]; rfl),
    InternalDevice.runFunction_of_lookup _ at_fi found⟩

/-- A light built through the typestate path, whatever routes are added after, serves its
route that turns it on at position 0 and its route that turns it off at position 1, unless
the latter's configuration equals the former's: then the call that adds it is refused and
leaves the light as it was. -/
theorem turnLightOff_serves [ValueFromRef S] (serialize : DeviceData → String)
    (wifiMac : List UInt8) (state : S) (onRoute offRoute : Route)
    (onHandler offHandler : RouteHandler S)
    (calls : List (LightCall Route S)) :
    let onConfig := (toRouteConfig onRoute).changeResponseKind onHandler.funcType.responseKind
    let offConfig := (toRouteConfig offRoute).changeResponseKind offHandler.funcType.responseKind
    let lightOn := (Light.withState wifiMac state).turnLightOn toRouteConfig onRoute onHandler
    let device := ((calls.foldl (LightCall.apply toRouteConfig)
      (lightOn.turnLightOff toRouteConfig offRoute offHandler)).build).intoInternal serialize
    device.routeConfigs.toList[0]? = some onConfig ∧
      (∀ payloads, device.runFunction 0 payloads =
        some (onHandler.call (ValueFromRef.valueFromRef state) payloads)) ∧
      ((offConfig == onConfig) = false →
        device.routeConfigs.toList[1]? = some offConfig ∧
        ∀ payloads, device.runFunction 1 payloads =
          some (offHandler.call (ValueFromRef.valueFromRef state) payloads)) ∧
      ((offConfig == onConfig) = true → lightOn.turnLightOff toRouteConfig offRoute offHandler =
        lightOn.light) := by
  intro onConfig offConfig lightOn
  have first : lightOn.light.Represents [(onConfig, onHandler)] := by
    simpa [serveRoute] using
      (CompleteLight.represents_withState wifiMac state).addRoute toRouteConfig onRoute onHandler
  have held :
      lightOn.light.deviceData.routeConfigs.contains offConfig = (offConfig == onConfig) := by
    simp [IndexSet.contains, first.routes]
  have kept : (calls.foldl (LightCall.apply toRouteConfig)
      (lightOn.turnLightOff toRouteConfig offRoute offHandler)).state = state :=
    (CompleteLight.state_foldl_apply toRouteConfig _ calls).trans
      ((CompleteLight.state_addRoute ..).trans (CompleteLight.state_addRoute ..))
  have rep := (first.addRoute toRouteConfig offRoute offHandler).foldl toRouteConfig calls
  obtain ⟨rest, grown⟩ := foldl_serve_extends toRouteConfig
    (serveRoute [(onConfig, onHandler)] offConfig offHandler) calls
  have entry : ∀ {i entry}, (serveRoute [(onConfig, onHandler)] offConfig offHandler)[i]? =
      some entry → (calls.foldl (serve toRouteConfig)
        (serveRoute [(onConfig, onHandler)] offConfig offHandler))[i]? = some entry :=
    fun at_i => by
      rw [← grown, List.getElem?_append_left (List.getElem?_eq_some_iff.mp at_i).1, at_i]
  have at_zero : (serveRoute [(onConfig, onHandler)] offConfig offHandler)[0]? =
      some (onConfig, onHandler) := by
    unfold serveRoute
    split <;> rfl
  have at_one (fresh : (offConfig == onConfig) = false) :
      (serveRoute [(onConfig, onHandler)] offConfig offHandler)[1]? =
        some (offConfig, offHandler) := by
    simp [serveRoute, fresh]
  have zero := rep.serves serialize kept (entry at_zero)
  exact ⟨zero.1, zero.2, fun fresh => rep.serves serialize kept (entry (at_one fresh)),
    fun dup => CompleteLight.addRoute_of_contains toRouteConfig lightOn.light offRoute _ _ _
      (held.trans dup)⟩

end Serves

end Tosca.Firmware
