/-!
Transitive closures by breadth-first search. From a start node the search takes nodes from a
queue in order: a node already visited is passed over; a new one is visited, listed, and, when
it has successors, those not yet visited join the end of the queue. The start node counts as
visited and is never listed. The closure lists the nodes in the order they are visited.
-/

namespace Thesaurus.Closure

/-- The search from the queue `queue`, with the nodes `visited` so far and the nodes `out`
listed so far (reversed); `succ` gives the successors of a node that has any. -/
def search (succ : String → Option (List String)) :
    Nat → List String → List String → List String → List String
  | 0, _, _, out => out.reverse
  | _ + 1, _, [], out => out.reverse
  | fuel + 1, visited, u :: queue, out =>
    if visited.contains u then search succ fuel visited queue out
    else
      let visited := u :: visited
      let queue := match succ u with
        | some next => queue ++ next.filter (fun v => !visited.contains v)
        | none => queue
      search succ fuel visited queue (u :: out)

/-- The nodes reachable from `start`, in the order breadth-first search visits them. `bound`
bounds the number of nodes that can enter the queue: twice the number of successor links of
all nodes is enough. -/
def reach (succ : String → Option (List String)) (bound : Nat) (start : String) : List String :=
  search succ (bound + 1) [start] ((succ start).getD []) []

end Thesaurus.Closure
