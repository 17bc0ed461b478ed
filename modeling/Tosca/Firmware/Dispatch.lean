/-
# Dispatching a request on a built light

`run_function` indexes `index_array` and the handler vectors without a check: the server
only stays in bounds because the index comes from `analyze_route`, which only returns the
position of a route configuration, and because the builder keeps one function index per
configuration. This module puts the two together for every light the builder can produce:
`handle` panics only where `analyze_route` does, and an accepted request runs the handler
passed along with the route it names.
-/

import Tosca.Firmware.Server

namespace Tosca.Firmware

theorem index_of_map_mk {parsed : Except Response ParametersPayloads} {routeIndex index : Nat}
    {payloads : ParametersPayloads}
    (mapped : parsed.map (RouteInfo.mk routeIndex) = .ok ⟨index, payloads⟩) :
    routeIndex = index := by
  cases parsed <;> simp_all [Except.map]

variable [BEq RouteConfig] {S : Type}

/-- `analyze_route` only returns the position of one of the device's route configurations. -/
theorem analyzeRoute_index_lt {parsers : Parsers} {device : InternalDevice S} {method : Method}
    {path : String} {headers : Headers} {body : Body} {index : Nat}
    {payloads : ParametersPayloads}
    (ok : analyzeRoute parsers device method path headers body = some (.ok ⟨index, payloads⟩)) :
    index < device.routeConfigs.toList.length := by
  simp only [analyzeRoute] at ok
  split at ok
  · simp at ok
  split at ok
  · simp at ok
  split at ok
  · simp at ok
  obtain ⟨_, -, checked⟩ := Option.bind_eq_some.1 ok
  split at checked
  · simp at checked
  obtain ⟨exit, selected, finished⟩ :=
    Option.bind_eq_some.1 (by simpa only [pure_bind] using checked)
  have exited : ∀ {routeIndex routeIter}, exit = .exited routeIndex routeIter →
      index < device.routeConfigs.toList.length := by
    rintro routeIndex routeIter rfl
    simp only [IndexSet.getIndex] at finished
    split at finished
    · simp at finished
    rename_i found
    simp only [Option.pure_def, Option.some.injEq] at finished
    exact index_of_map_mk finished ▸ (List.getElem?_eq_some_iff.1 found).1
  rcases selectRoute_cases selected with same | rfl | ⟨i, route, -, rest, mem, -, -, -, -, rfl⟩
  · exact exited same
  · simp at finished
  split_ifs at finished with empty
  · simp only [Option.pure_def, Option.some.injEq, Except.ok.injEq, RouteInfo.mk.injEq] at finished
    exact finished.1 ▸ (List.getElem?_eq_some_iff.1 (List.mem_enum_iff_getElem?.1 mem)).1
  · exact exited (if_neg empty)

section Built

variable {Route : Type} (toRouteConfig : Route → RouteConfig)

/-- `handle` on a light built by any sequence of builder calls never goes out of bounds in
`run_function`: it panics only where `analyze_route` does (a main route or a route path it
cannot slice), and a request `analyze_route` accepts runs, on the device's state, the
handler passed along with the route at the index it returned. -/
theorem handle_built [ValueFromRef S] (serialize : DeviceData → String)
    (wifiMac : List UInt8) (state : S) (calls : List (LightCall Route S)) (parsers : Parsers)
    (method : Method) (path : String) (headers : Headers) (body : Body) :
    let device := ((calls.foldl (LightCall.apply toRouteConfig)
      (CompleteLight.withState wifiMac state)).build).intoInternal serialize
    (handle parsers device method path headers body = none ↔
      path ≠ "/" ∧ isMethodAllowed method = false ∧
        analyzeRoute parsers device method path headers body = none) ∧
    ∀ index payloads, path ≠ "/" → isMethodAllowed method = false →
      analyzeRoute parsers device method path headers body = some (.ok ⟨index, payloads⟩) →
      ∃ config handler, (served toRouteConfig calls)[index]? = some (config, handler) ∧
        handle parsers device method path headers body =
          some (handler.call (ValueFromRef.valueFromRef state) payloads) := by
  intro device
  have rep := (CompleteLight.represents_withState wifiMac state).foldl toRouteConfig calls
  have kept := CompleteLight.state_foldl_apply toRouteConfig (.withState wifiMac state) calls
  have routes : device.routeConfigs.toList = (served toRouteConfig calls).map Prod.fst :=
    rep.routes
  have runs : ∀ {index payloads},
      analyzeRoute parsers device method path headers body = some (.ok ⟨index, payloads⟩) →
      ∃ config handler, (served toRouteConfig calls)[index]? = some (config, handler) ∧
        device.runFunction index payloads =
          some (handler.call (ValueFromRef.valueFromRef state) payloads) := by
    intro index payloads ok
    have lt : index < (served toRouteConfig calls).length := by
      simpa [routes] using analyzeRoute_index_lt ok
    obtain ⟨⟨config, handler⟩, at_i⟩ :
        ∃ entry, (served toRouteConfig calls)[index]? = some entry :=
      ⟨_, List.getElem?_eq_getElem lt⟩
    exact ⟨config, handler, at_i, (rep.serves serialize kept at_i).2 payloads⟩
  refine ⟨?_, fun index payloads notRoot refused ok => ?_⟩
  · by_cases root : path = "/"
    · simp [handle, root]
    by_cases allowed : isMethodAllowed method
    · simp [handle, root, allowed]
    rcases analyzed : analyzeRoute parsers device method path headers body with
      _ | _ | ⟨index, payloads⟩
    · simp [handle, root, allowed, analyzed]
    · simp [handle, root, allowed, analyzed]
    · obtain ⟨_, _, -, run⟩ := runs analyzed
      simp [handle, root, allowed, analyzed, run]
  · obtain ⟨config, handler, at_i, run⟩ := runs ok
    exact ⟨config, handler, at_i, by simp [handle, notRoot, refused, ok, run]⟩

end Built

end Tosca.Firmware
