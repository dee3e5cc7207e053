import Wandb.Python.Ast
import Wandb.Graphlib.Sorter
import Wandb.Graphlib.FindCycle
import Wandb.Graphlib.StaticOrder
import Wandb.Codegen.PluginUtils
import Wandb.Codegen.FragmentOrder
import Wandb.Codegen.RewriteField
import Wandb.Codegen.Redundant
import Wandb.Codegen.Plugin
import Wandb.Artifacts.Collection
import Wandb.Artifacts.Load
import Wandb.Artifacts.Paginators
import Wandb.Artifacts.Requests
